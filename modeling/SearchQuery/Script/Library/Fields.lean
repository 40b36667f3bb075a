import SearchQuery.Script.Session
import SearchQuery.ExtendedJson.Decode

/-!
# Fields, kinds and places for scripts

The callables of the library that check values, or make fields, geographic
values, plain values and targets.
-/

namespace SearchQuery

/-!
## Checks for scripts

The guards of the builders, as functions that give back the value they accept.
-/

namespace Fault

/-- A fault about an argument whose name was given as a value: it keeps that
value when it is no text. -/
def about (name : Value) (f : Fault Value) : Fault Value :=
  match name, f with
  | .text _, f => f
  | name, .invalid argument v reason =>
    .told "InvalidArgumentError" [("argument", name), ("value", v), ("reason", .text reason.text)]
      (Fault.invalid argument v reason).message
  | name, .outOfRange argument v reason =>
    .told "ArgumentOutOfRangeError"
      [("argument", name), ("value", v), ("reason", .text reason.text)]
      (Fault.outOfRange argument v reason).message
  | _, f => f

end Fault

namespace Library

def guarded {α : Type} (guard : String → Checked α) (name : Value) : Action α :=
  Action.ofChecked ((guard name.plain).mapError (Fault.about name))

def check {α : Type} (name : String) (guard : String → Value → Checked α) : Callable :=
  .function name [.required "value", .required "name"] (fun a => do
    let _ ← guarded (fun argument => guard argument (a.get "value")) (a.get "name")
    return a.get "value")

def question (name : String) (answer : Value → Bool) : Callable :=
  .function name [.required "value"] (fun a => pure (.bool (answer (a.get "value"))))

/-- A value as a number that another one is compared with.  A decimal refuses to
be compared when one side is no number. -/
def limit (v : Value) (x : Number) : Checked Extended :=
  match v, v.toTerm.extended? with
  | _, none => .error (.refused .wrongType)
  | .decimal _, some e =>
    if e = .nan ∨ x.extended = .nan then .error (.refused .decimalMalformed) else .ok e
  | _, some e => .ok e

/-- A number within bounds of any comparable kind, both included. -/
def between (low high : Value) (argument : String) (v : Value) : Checked Value := do
  let x ← Guard.number argument v
  let outside : Fault Value := .worded (low.isWritable && high.isWritable)
    (Guard.outside argument v x (.outside low.plain high.plain))
  let least ← limit low x
  if !least.le x.extended then throw outside
  let most ← limit high x
  if x.extended.le most then return v else throw outside

/-- A value of a class, or of one of a tuple of classes. -/
def instanceOf (c : Catalog) (kind : Value) (argument : String) (v : Value) : Checked Value := do
  let v ← Guard.notNull argument v
  let kinds := match kind with
    | .tuple kinds => kinds
    | kind => [kind]
  if ← v.belongsToAny c kinds then return v
  let names ← kinds.mapM Value.nameOf
  throw (.invalid argument v (.expectedKind (names.map Value.plain) v.kind))

def checks : List Callable := [
  question "is_number" Value.isNumber,
  question "is_date" Value.isDate,
  check "not_none" Guard.notNull,
  check "number" Guard.number,
  check "integer" Guard.integer,
  check "greater_than_zero" Guard.positive,
  check "zero_or_greater" Guard.notNegative,
  check "non_empty_string" Guard.text,
  .function "between" [.required "value", .required "low", .required "high", .required "name"]
    (fun a => guarded
      (fun argument => between (a.get "low") (a.get "high") argument (a.get "value"))
      (a.get "name")),
  .function "instance_of" [.required "value", .required "kind", .required "name"]
    (fun a => do
      let c ← Action.catalog
      guarded (fun argument => instanceOf c (a.get "kind") argument (a.get "value"))
        (a.get "name")),
  .function "check_field" [.required "value", .optional "name" (.text "field")] (fun a => do
    let _ ← guarded (fun argument => Guard.field argument (a.get "value")) (a.get "name")
    return a.get "value"),
  .function "check_score" [.required "score"] (fun a => do
    let _ ← Action.ofChecked (Guard.score (a.get "score"))
    return .null)]

end Library

/-!
## Fields, paths, queries and schemas for scripts
-/

namespace Action

/-- What comes of a check, with the value that a script sees. -/
def wrapped {α : Type} (wrap : α → Value) (outcome : Checked α) : Action Value := do
  return wrap (← ofChecked outcome)

/-- A query from anything texts can be taken from; a stream is gone through. -/
def query (v : Value) : Action Value := do
  wrapped .ofQuery (Query.coerce (← drain v))

/-- A value that is to be gone through: a stream is, and a reference fails. -/
def sequence (v : Value) : Action Value := do
  match v with
  | .node (.field _) => ofChecked (v.item (← catalog) (.int 0))
  | .node (.looseField ..) => ofChecked (v.item (← catalog) (.int 0))
  | .node (.looseMembers ..) => ofChecked (v.item (← catalog) (.int 0))
  | v => drain v

/-- A path from anything fields can be taken from; a stream is gone through. -/
def path (v : Value) : Action Value := do
  wrapped .ofPath (Path.coerce (← drain v))

end Action

namespace Library

/-- The plain text of a value, which a reference or a table of members may fail to have. -/
def plainText (v : Value) : Action String := do
  match v with
  | .node (.looseField owner parts) =>
    Action.ofChecked (Reference.text (← Action.catalog) owner parts)
  | .node (.code text _) => return text
  | v =>
    Action.ofChecked v.named
    if v.isWritable then return v.plain else throw (.refused .badValue)

/-- A reference from a model and a chain, whatever they are. -/
def fieldRef (model parts : Value) : Value :=
  match FieldRef.ofTerms? model.toTerm parts.toTerm with
  | some r => .node (.field r)
  | none => .node (.looseField model parts)

/-- The members of a model, ready to be referred to. -/
def fieldsOf (model : Value) : Action Value := do
  let m ← Action.ofChecked (Schema.model model)
  return .node (.members m (← Action.fresh))

def membersOf (model : Value) : Action Value := do
  match model with
  | .node (.model m) => return .node (.members m (← Action.fresh))
  | model => return .node (.looseMembers model (← Action.fresh))

/-- The schema that a value stands for, as a value; a schema stands for itself. -/
def asSchema (v : Value) : Action Value := do
  match v with
  | .null => return .node (.schema .untyped 0)
  | .node (.model m) => return .node (.schema (.modelled m) (← Action.fresh))
  | v =>
    let _ ← Action.ofChecked (Schema.coerce (← Action.catalog) v)
    return v

def memberModel (c : Catalog) (model parts : Value) : Checked Value := do
  let items ← Reference.elements c parts
  Reference.reach c model items

def nestedModel : Value → Value
  | .node (.model m) => .node (.model m)
  | .node (.generic a _ _) => .ofOption (fun m => .node (.model m)) a.nested
  | _ => .null

/-- What an attribute of a value is; an operation is known by its kind and by the value that it is
bound to. -/
def attributeValue (c : Catalog) (v : Value) (name : String) : Checked Value := do
  match ← v.part c name with
  | .value found => return found
  | .method _ => return .node (.other "method" [v])
  | .unapplied _ => return .node (.other "function" [])

/-- The stored name of a member, by what is known of it. -/
def serializedName (c : Catalog) (name info : Value) : Checked Value := do
  let stored ← attributeValue c info "serialization_alias"
  if stored.truth then return stored
  let general ← attributeValue c info "alias"
  return if general.truth then general else name

def fields : List Callable := [
  .constructor "FieldRef" [.required "model", .required "parts"]
    (fun a => pure (fieldRef (a.get "model") (a.get "parts"))),
  .constructor "_ModelFields" [.required "model"] (fun a => membersOf (a.get "model")),
  .function "fields_of" [.required "model"] (fun a => fieldsOf (a.get "model")),
  .family "Schema",
  .constructor "UntypedSchema" [] (fun _ => do
    return .node (.schema .untyped (← Action.fresh))),
  .constructor "ModelSchema" [.required "model"] (fun a => do
    let m ← Action.ofChecked (Schema.model (a.get "model"))
    return .node (.schema (.modelled m) (← Action.fresh))),
  .function "as_schema" [.nullable "schema"] (fun a => asSchema (a.get "schema")),
  .function "_nested_model" [.required "annotation"]
    (fun a => pure (nestedModel (a.get "annotation"))),
  .function "_member_model" [.required "model", .required "parts"] (fun a => do
    Action.ofChecked (memberModel (← Action.catalog) (a.get "model") (a.get "parts"))),
  .function "_serialized_name" [.required "name", .required "info"] (fun a => do
    Action.ofChecked (serializedName (← Action.catalog) (a.get "name") (a.get "info"))),
  .family "QueryDefinition",
  .constructor "SingleQuery" [.required "query"]
    (fun a => Action.wrapped .ofQuery (Query.ofText (a.get "query"))),
  .constructor "MultiQuery" [.required "queries"]
    (fun a => Action.wrapped .ofQuery (Query.ofTexts (a.get "queries"))),
  .function "as_query" [.required "value"] (fun a => Action.query (a.get "value")),
  .family "PathDefinition",
  .constructor "SinglePath" [.required "field"]
    (fun a => Action.wrapped .ofPath (Path.ofField (a.get "field"))),
  .constructor "MultiPath" [.required "fields"]
    (fun a => Action.wrapped .ofPath (Path.ofFields (a.get "fields"))),
  .constructor "AnalyzerPath" [.required "field", .required "analyzer"]
    (fun a => Action.wrapped .ofPath (Path.ofAnalyzer (a.get "field") (a.get "analyzer"))),
  .constructor "WildcardPath" [.required "pattern"]
    (fun a => Action.wrapped .ofPath (Path.ofPattern (a.get "pattern"))),
  .function "as_path" [.required "value"] (fun a => Action.path (a.get "value")),
  .function "analyzer" [.required "field", .required "name"]
    (fun a => Action.wrapped .ofPath (Path.ofAnalyzer (a.get "field") (a.get "name"))),
  .function "wildcard_path" [.required "pattern"]
    (fun a => Action.wrapped .ofPath (Path.ofPattern (a.get "pattern")))]

end Library

/-!
## Geographic values for scripts
-/

namespace Library

def occursIn (part whole : List Char) : Bool :=
  match whole with
  | [] => part.isEmpty
  | c :: rest => part.isPrefixOf (c :: rest) || occursIn part rest

/-- Whether a geometry type is among those of a container: a part of a text, or
an element of anything else that can be gone through. -/
def isAmong (c : Catalog) (type allowed : Value) : Checked Bool :=
  let among : Checked Bool := do
    let items ← Reference.elements c allowed
    return items.any (Value.sameKey type)
  match allowed.asWords? with
  | some whole =>
    match type.asWords? with
    | some part => .ok (occursIn part.text.toList whole.text.toList)
    | none => .error (.refused .wrongType)
  | none =>
    match allowed with
    | .set _ => if type.hashable then among else .error (.refused .wrongType)
    | .dict _ => if type.hashable then among else .error (.refused .wrongType)
    | .node (.classNamed ..) => .error (.refused .wrongType)
    | _ => among

/-- The geometry types of a container of texts, in alphabetical order; nothing
is left of a stream once a type was not found in it. -/
def typeNames (allowed : Value) : Checked (List String) := do
  match allowed with
  | .stream .. => return []
  | allowed =>
    let names ← Guard.each (fun v => match v.asWords? with
      | some w => .ok w.text
      | none => .error (.refused .wrongType)) (← allowed.toItems)
    return names.mergeSort (fun a b => decide (a ≤ b))

def typeSet (names : List String) : Value :=
  .set (names.map .text)

def setOfNames? : Value → Option (List String)
  | .set items => items.mapM (fun v => match v with | .text name => some name | _ => none)
  | _ => none

/-- The document of the geometry of a value, whose type must be in a container.  Any container but a
set of names is asked for the type itself. -/
def encodeAmong (c : Catalog) (v allowed : Value) (argument : String) : Checked Value :=
  match setOfNames? allowed with
  | some names => Geometry.encode (names.mergeSort (fun a b => decide (a ≤ b))) argument v
  | none => do
    let entries ← Geometry.description argument v
    let type := (Value.lookup "type" entries).getD .null
    if ← isAmong c type allowed then
      match Value.lookup "coordinates" entries with
      | some coordinates =>
        return .object [("type", type), ("coordinates", coordinates.listify)]
      | none => throw (.invalid argument v .noCoordinates)
    else
      let names ← typeNames allowed
      throw (.worded type.isWritable (.invalid argument v (.geometryType type.shown names)))

/-- The document of the geometry of a value under a name; streams are gone through. -/
def encodeGeometry (v allowed argument : Value) : Action Value := do
  let c ← Action.catalog
  let v ← Action.readOutline v
  let now ← Action.current allowed
  guarded (encodeAmong c v now) argument

def choiceOf (enumeration : String) (v : Value) : Checked Value :=
  match v with
  | .node (.choice c) =>
    if c.enumeration = enumeration then .ok v else .error (.refused .badValue)
  | v =>
    match (Choice.membersOf enumeration).find? (fun c => c.value.equal v) with
    | some c => .ok (.node (.choice c))
    | none => .error (.refused .badValue)

/-- An enumeration, whose members are found by their values; names for further
members are refused, and what would describe them is not looked at. -/
def enumeration (name : String) : Callable :=
  ⟨name, true,
    ⟨[.required "value", .nullable "names"], false,
      [.nullable "module", .nullable "qualname", .nullable "type", .nullable "start",
        .nullable "boundary"]⟩,
    fun a => do
      match a.get "names" with
      | .null => Action.ofChecked (choiceOf name (a.get "value"))
      | _ => throw (.refused .wrongType)⟩

def relationName (v : Value) : Checked Value :=
  match v with
  | .node (.choice (.relation r)) => .ok (.text r.word)
  | v => .error (.worded v.isWritable (.unhandledRelation v))

def places : List Callable := [
  .constructor "GeoPoint" [.required "longitude", .required "latitude"]
    (fun a => Action.wrapped (fun p => .node (.point p))
      (GeoPoint.build (a.get "longitude") (a.get "latitude"))),
  .constructor "GeoBox" [.required "bottom_left", .required "top_right"] (fun a => do
    let low ← Action.readOutline (a.get "bottom_left")
    let _ ← Action.ofChecked (Geometry.point "bottom_left" low)
    let high ← Action.readOutline (a.get "top_right")
    Action.wrapped (fun b => .node (.box b)) (GeoBox.build low high)),
  .constructor "GeoCircle" [.required "center", .required "radius"] (fun a => do
    let center ← Action.readOutline (a.get "center")
    Action.wrapped (fun c => .node (.circle c)) (GeoCircle.build center (a.get "radius"))),
  enumeration "GeoShapeRelation",
  .function "_listify" [.required "coordinates"] (fun a => pure (a.get "coordinates").listify),
  .function "encode_geometry"
    [.required "value", .optional "allowed" (typeSet shapeTypes),
      .optional "name" (.text "geometry")]
    (fun a => encodeGeometry (a.get "value") (a.get "allowed") (a.get "name")),
  .function "point" [.required "value", .required "name"]
    (fun a => encodeGeometry (a.get "value") (typeSet ["Point"]) (a.get "name")),
  .function "relation_name" [.required "relation"]
    (fun a => Action.ofChecked (relationName (a.get "relation")))]

end Library

/-!
## Plain kinds for scripts

A kind of plain values, called with nothing, gives its empty value, and called
with a value it converts it.  Kinds that are only named are not converted to.
-/

namespace Library

/-- The integer part of a value that stands for a number. -/
def truncated (v : Value) : Checked Int :=
  match v with
  | .number (.ratio q) => .ok (q.num.tdiv q.den)
  | .decimal (.infinite _) => .error (.refused .overflow)
  | .decimal (.nan ..) => .error (.refused .badValue)
  | .decimal d =>
    match d.extended with
    | .finite q => .ok (q.num.tdiv q.den)
    | _ => .error (.refused .badValue)
  | v => ExtendedJson.toInt v

/-- The double nearest to a number, which must not be too great. -/
def nearestDouble (q : Rat) : Checked Value :=
  match Double.ofMagnitude (decide (q < 0)) (if q < 0 then -q else q) with
  | .infinite _ => .error (.refused .overflow)
  | d => .ok (.number (.double d))

/-- The double that a value stands for; a not-a-number gets the given tag. -/
def toDouble (tag : Nat) (v : Value) : Checked Value :=
  match v with
  | .number (.double d) => .ok (.number (.double d))
  | .number (.whole w) => nearestDouble w.value
  | .number (.ratio q) => nearestDouble q
  | .bool b => nearestDouble (if b then 1 else 0)
  | .decimal d =>
    match Number.readDouble? tag d.text with
    | some d => .ok (.number (.double d))
    | none => .error (.refused .badValue)
  | v =>
    match ExtendedJson.written? v with
    | some s =>
      match Number.readDouble? tag s with
      | some d => .ok (.number (.double d))
      | none => .error (.refused .badValue)
    | none => .error (.refused .wrongType)

/-- The empty value of a plain kind, if it has one. -/
def emptyOf? : String → Option Value
  | "str" => some (.text "")
  | "int" => some (.int 0)
  | "Int64" => some (.whole (.long 0))
  | "float" => some (.number (.double (.finite false 0)))
  | "bool" => some (.bool false)
  | "list" => some (.list [])
  | "dict" => some (.dict [])
  | "tuple" => some (.tuple [])
  | "object" => some (.node (.other "object" []))
  | "ValueError" => some (.node (.other "ValueError" []))
  | "Exception" => some (.node (.other "Exception" []))
  | _ => none

def converted (kind : String) (v : Value) : Action Value := do
  match kind with
  | "str" => return .text (← plainText v)
  | "bool" => return .bool v.truth
  | "int" => return .int (← Action.ofChecked (truncated v))
  | "Int64" => return .whole (.long (← Action.ofChecked (truncated v)))
  | "float" => Action.ofChecked (toDouble (← Action.fresh) v)
  | "list" => return .list (← Action.ofChecked (← Action.sequence v).toItems)
  | "tuple" => return .tuple (← Action.ofChecked (← Action.sequence v).toItems)
  | "dict" => return .dict (← Action.ofChecked (← Action.sequence v).toEntries)
  | "ObjectId" => Action.ofChecked (ExtendedJson.objectId (← Action.fresh) v)
  | "ValueError" => return .node (.other kind [v])
  | "Exception" => return .node (.other kind [v])
  | _ => throw (.refused .wrongType)

def callPlain (kind : String) (args : List Value) : Action Value :=
  match args with
  | [] => do
    if kind = "ObjectId" then return ExtendedJson.newObjectId (← Action.fresh)
    match emptyOf? kind with
    | some v => pure v
    | none => throw (.refused .wrongType)
  | [v] => converted kind v
  | _ => throw (.refused .wrongType)

end Library

/-!
## Targets for scripts

A script may ask for what a target leads to, as the command line does: for an
object of a module, for an operator that it is or makes, or for printing one.
-/

namespace Library

def targets : List Callable := [
  .function "_load_from_env" [] (fun _ => do
    return .ofOption .text (← get).host.index),
  .function "_import_object" [.required "target"] (fun a => do
    Action.ofChecked ((← get).host.object (a.get "target"))),
  .function "_load_definition" [.required "target"] (fun a => do
    Action.ofChecked ((← get).host.definition (a.get "target"))),
  .function "render"
    [.required "target", .nullable "schema", .optional "stage" (.text "search"),
      .nullable "index", .optional "indent" (.int 2)]
    (fun a => do
      Action.ofChecked ((← get).host.print ⟨a.get "target", a.get "schema",
        .ofValue (a.get "stage"), a.get "index", a.get "indent"⟩))]

end Library

end SearchQuery
