import SearchQuery.Script.Expr

/-!
# Modules of definitions

Modules with the definitions that a target can name, and a sample of them.
-/

namespace SearchQuery

/-!
## Workspaces

A workspace is made of modules, whose names may have several segments, and a
module gives names to values and to factories, which make a value when they
are called.  A target names a module and a chain of attributes in it.

Objects have attributes that nobody gave them: those that the host language
gives to every object, or to all objects of a kind.  The workspace is told of
them by the language it is written in.
-/

/-- What a module has under a name. -/
inductive Definition where
  | value (v : Value)
  | factory (e : Expr)

/-- A module with what it defines. -/
structure Module where
  name : String
  definitions : List (String × Definition)

/-- Why a target does not lead to an object. -/
inductive TargetError where
  | malformed (target : String)
  | noModule (name : String)
  | notPackage (name parent : String)
  | noAttribute (home chain : String)
deriving DecidableEq

namespace TargetError

def text : TargetError → String
  | .malformed target => "Expected MODULE:ATTRIBUTE, got " ++ Text.quoted target
  | .noModule name => "No module named " ++ Text.quoted name
  | .notPackage name parent =>
    "No module named " ++ Text.quoted name ++ "; " ++ Text.quoted parent ++ " is not a package"
  | .noAttribute home chain =>
    Text.quoted home ++ " has no attribute " ++ Text.quoted chain

end TargetError

/-- A module and a chain of attributes in it. -/
structure Target where
  home : String
  chain : String
deriving DecidableEq

namespace Target

/-- Reads a target: a module and an attribute, neither empty, around the first colon. -/
def ofText? (s : String) : Option Target :=
  let chars := s.toList
  let home := chars.takeWhile (· != ':')
  match chars.dropWhile (· != ':') with
  | [] => none
  | _ :: chain =>
    if home.isEmpty || chain.isEmpty then none
    else some ⟨String.ofList home, String.ofList chain⟩

/-- The text of a target; what is no text cannot be divided. -/
def textOf (v : Value) : Checked String :=
  match v.asWords? with
  | some words => .ok words.text
  | none =>
    match v with
    | .bytes _ => .error (.refused .wrongType)
    | .special (.binary ..) => .error (.refused .wrongType)
    | v => .error (v.absence "partition")

/-- Whether the module is named relative to another, which a target cannot give. -/
def isRelative (t : Target) : Bool :=
  t.home.startsWith "."

end Target

/-- An object that a target leads to.  One of the host language has a kind, something that it gives
when it is called without arguments, if it can be called, and values that it holds. -/
inductive Found where
  | value (v : Value)
  | factory (e : Expr)
  | method (receiver : Value) (name : String)
  | unapplied (name : String)
  | home (m : Module)
  | native (kind : String) (called : Option (Checked Value)) (held : List Value)

/-- What the host language tells of objects: what they have under a name, if that is up to the
language, and what a call without arguments gives of values that only the language can call. -/
structure Language where
  offered : Found → String → Option (Checked (Option Found))
  called : Value → Option (Checked Value)

/-- Modules in a language. -/
structure Workspace where
  modules : List Module
  language : Language

namespace Module

/-- What a module has under a name; every module has its own name. -/
def lookup? (m : Module) (name : String) : Option Found :=
  match m.definitions.find? (fun d => d.1 == name) with
  | some (_, .value v) => some (.value v)
  | some (_, .factory e) => some (.factory e)
  | none => if name = "__name__" then some (.value (.text m.name)) else none

end Module

namespace Workspace

def module? (w : Workspace) (name : String) : Option Module :=
  w.modules.find? (fun m => m.name == name)

def isPackage (w : Workspace) (name : String) : Bool :=
  w.modules.any (fun m => m.name.startsWith (name ++ "."))

/-- Whether a name is that of a module or of a package. -/
def contains (w : Workspace) (name : String) : Bool :=
  (w.module? name).isSome || w.isPackage name

/-- The error of the first name that is missing on the way to a module, going
down one segment at a time from a parent that is there. -/
def missing? (w : Workspace) (parent : Option String) : List String → Option TargetError
  | [] => none
  | segment :: rest =>
    let name := match parent with
      | none => segment
      | some above => above ++ "." ++ segment
    if w.contains name then missing? w (some name) rest
    else
      match parent with
      | none => some (.noModule name)
      | some above => if w.isPackage above then some (.noModule name) else some (.notPackage name above)

/-- Loads a module; a package without definitions of its own is an empty one. -/
def load (w : Workspace) (name : String) : Except TargetError Module :=
  match w.missing? none (Text.segments name) with
  | some e => .error e
  | none => .ok ((w.module? name).getD ⟨name, []⟩)

/-- What a module has under a name; a package also has the modules below it. -/
def lookup? (w : Workspace) (m : Module) (name : String) : Option Found :=
  match m.lookup? name with
  | some found => some found
  | none =>
    match w.load (m.name ++ "." ++ name) with
    | .ok below => some (.home below)
    | .error _ => none

end Workspace

namespace Found

def kind : Found → String
  | .value v => v.kind
  | .factory _ => "function"
  | .method .. => "method"
  | .unapplied _ => "function"
  | .home _ => "module"
  | .native kind .. => kind

/-- An object as a value; what has no value is known by its kind and by what it holds. -/
def asValue : Found → Value
  | .value v => v
  | .method receiver _ => .node (.other "method" [receiver])
  | .home m => .node (.module m.name)
  | .native kind _ held => .node (.other kind held)
  | found => .node (.other found.kind [])

/-- What an object brings along under a name, if anything; asking may fail in other ways. -/
def own (w : Workspace) (c : Catalog) (name : String) : Found → Checked (Option Found)
  | .value v =>
    match v.part c name with
    | .ok (.value found) => .ok (some (.value found))
    | .ok (.method name) => .ok (some (.method v name))
    | .ok (.unapplied name) => .ok (some (.unapplied name))
    | .error (.noAttribute _) => .ok none
    | .error f => .error f
  | .home m => .ok (w.lookup? m name)
  | _ => .ok none

/-- What an object has under a name, if anything: what the language decides on, or else what the
object brings along. -/
def part (w : Workspace) (c : Catalog) (name : String) (found : Found) : Checked (Option Found) :=
  (w.language.offered found name).getD (found.own w c name)

def follow (w : Workspace) (c : Catalog) (found : Found) : List String → Checked (Option Found)
  | [] => .ok (some found)
  | name :: rest => do
    match ← found.part w c name with
    | some next => follow w c next rest
    | none => return none

/-- A document of a model without members; one with members needs their values. -/
def instanceOf (c : Catalog) (m : ModelName) : Checked Value :=
  if m = ModelName.base then .error (.refused .noInstance)
  else if (c m).members.isEmpty then .ok (.node (.other m.name []))
  else .error (.refused (.unfilled m.name ((c m).members.map Member.readName)))

/-- The value of an object: what a call gives of one that can be called. -/
def toValue (w : Workspace) : Found → Action Value
  | .value v =>
    match v with
    | .node (.operation name) => Library.call name [] []
    | .node (.classNamed _ name) => Library.call name [] []
    | .node (.model m) => do
      Action.ofChecked (instanceOf (← Action.catalog) m)
    | .node (.operator op) => pure (.node (.operator op))
    | v => Action.ofChecked ((w.language.called v).getD (.ok v))
  | .factory e => e.eval
  | .method v name => Method.apply v name [] []
  | .unapplied name => Method.applyFirst name [] []
  | .home m => pure (.node (.module m.name))
  | .native kind called held => Action.ofChecked (called.getD (.ok (.node (.other kind held))))

end Found

namespace Language

/-- The operations of every object that ask for an argument. -/
def asking : List String :=
  ["__delattr__", "__eq__", "__format__", "__ge__", "__getattribute__", "__gt__", "__le__",
    "__lt__", "__ne__", "__new__", "__reduce_ex__", "__setattr__", "__subclasshook__"]

/-- The operations of every object that ask for none, with the kind of what they give. -/
def answering : List (String × String) :=
  [("__dir__", "list"), ("__repr__", "str"), ("__sizeof__", "int"), ("__str__", "str")]

/-- The kinds outside the library that give an empty value when they are called. -/
def emptyKinds : List String :=
  ["bytes", "frozenset", "Decimal", "Fraction", "MaxKey", "MinKey", "Opaque", "SimpleNamespace"]

/-- The kinds of objects that are equal by what they hold and can be changed. -/
def unhashedKinds : List String :=
  ["list", "dict", "SimpleNamespace", "Code", "Decimal128", "Regex"]

def isClass : Found → Bool
  | .value (.node (.classNamed ..)) => true
  | .value (.node (.model _)) => true
  | .native "type" .. => true
  | _ => false

def classOf (found : Found) : Found :=
  let kind := found.kind
  if (Library.callable? kind).isSome || Library.plainKinds.contains kind then
    .value (.node (.classNamed (Kind.home kind) kind))
  else if kind = "NoneType" then .native "type" (some (.ok .null)) []
  else if emptyKinds.contains kind then .native "type" (some (.ok (.node (.other kind [])))) []
  else .native "type" (some (.error (.refused .wrongType))) []

/-- What making an object once more gives: nothing, if it can be made without arguments. -/
def remade (found : Found) : Checked Value :=
  match found, Library.callable? found.kind with
  | .home _, _ => .error (.refused .wrongType)
  | _, some f => if (f.signature.bind? [] []).isSome then .ok .null else .error (.refused .wrongType)
  | _, none => .ok .null

/-- Whether the objects of a kind have no hash, which they keep as null. -/
def lacksHash : Found → Bool
  | .value (.node (.model _)) => true
  | .value (.node (.classNamed _ name)) => unhashedKinds.contains name
  | .value v => unhashedKinds.contains v.kind
  | _ => false

/-- What asking for the hash of an object gives; an object may hold what has none. -/
def hashed : Found → Checked Value
  | .value v => if v.hashable then .ok (.node (.other "int" [])) else .error (.refused .wrongType)
  | _ => .ok (.node (.other "int" []))

/-- What every object has under a name.  The operations of a class are still to be given what they
are applied to. -/
def everywhere (found : Found) (name : String) : Option Found :=
  let operation := fun given : Checked Value =>
    Found.native "method-wrapper"
      (some (if isClass found then .error (.refused .wrongType) else given)) [found.asValue]
  if asking.contains name then some (operation (.error (.refused .wrongType)))
  else
    match name, answering.find? (fun entry => entry.1 == name) with
    | _, some (_, kind) => some (operation (.ok (.node (.other kind []))))
    | "__class__", none => some (classOf found)
    | "__hash__", none =>
      some (if lacksHash found then .value .null else operation (hashed found))
    | "__init__", none => some (operation (remade found))
    | "__init_subclass__", none => some (.native "builtin_function_or_method" (some (.ok .null)) [])
    | _, none => none

/-- A language in which every object has a class and the operations of every object.  What else an
object has depends on its kind: texts of its own, a table of what it keeps, and more. -/
def plain : Language where
  offered found name :=
    match found with
    | .home m =>
      if name != "__class__" && (m.lookup? name).isSome then none
      else (everywhere found name).map (.ok ∘ some)
    | found => (everywhere found name).map (.ok ∘ some)
  called _ := none

end Language

/-!
## Sample models and definitions

A small set of models with aliases, nesting and inheritance, and a few
definitions over them.  The modules that hold them are named by whoever puts
them into a workspace.
-/

namespace Samples

def member (name : String) (content : Annotation) : Member :=
  ⟨name, content, none, none, none⟩

def stored (name storedName : String) (content : Annotation) : Member :=
  ⟨name, content, some storedName, none, none⟩

def declarations (home : String) : List Declaration :=
  let model name : ModelName := ⟨home, name⟩
  [ ⟨model "Location", none, none,
      [member "type" (.scalar "str"), member "coordinates" (.list (.scalar "float"))]⟩,
    ⟨model "Address", none, none,
      [stored "street" "st" (.scalar "str"), member "city" (.scalar "str"),
        stored "location" "loc" (.optional (.model (model "Location")))]⟩,
    ⟨model "Person", none, none,
      [stored "id" "_id" (.scalar "ObjectId"), stored "first_name" "fn" (.scalar "str"),
        stored "last_name" "ln" (.scalar "str"), member "age" (.scalar "int"),
        stored "retired" "ret" (.scalar "bool"), stored "birthday" "dob" (.scalar "datetime"),
        stored "biography" "bio" (.optional (.scalar "str")),
        member "address" (.optional (.model (model "Address"))),
        stored "previous_addresses" "prev" (.list (.model (model "Address"))),
        member "metadata" (.dict (.scalar "str") (.scalar "str"))]⟩,
    ⟨model "Employee", some (model "Person"), none, [member "employer" (.scalar "str")]⟩,
    ⟨model "Document", none, some .allow, [stored "title" "t" (.scalar "str")]⟩,
    ⟨model "Engine", none, none,
      [stored "model" "mdl" (.scalar "str"), member "parts" (.list (.scalar "str"))]⟩,
    ⟨model "Car", none, none, [stored "engine" "eng" (.model (model "Engine"))]⟩]

def models (home : String) : List ModelName :=
  (declarations home).map Declaration.name

def catalog (home : String) : Catalog :=
  (declarations home).foldl Catalog.declare Catalog.empty

/-- Documents with a text in one field and a year of the nineties in another. -/
def nineties : Operator Value :=
  .compound (some [.text (.single "born") (.single (.name "plot")) none none]) none none
    (some [.range .complete (.single (.name "year")) (some ⟨.number (.int 1990), .bool true⟩)
      (some ⟨.number (.int 2000), .bool false⟩) none])
    (.int 0) none

/-- A search over a member of a model, named by a reference. -/
def biography (home : String) : Expr :=
  .call "text" [.literal (.text "born"),
    .literal (.node (.field ⟨⟨home, "Person"⟩, ["biography"]⟩))] []

def modelModule (home : String) : Module :=
  ⟨home, (models home).map (fun m => (m.name, .value (.node (.model m))))⟩

def definitionModule (name home : String) : Module :=
  ⟨name,
    [("born_in_the_nineties", .value (.ofOperator nineties)), ("not_a_query", .value (.int 42)),
      ("typed_biography", .factory (biography home))]⟩

end Samples

end SearchQuery
