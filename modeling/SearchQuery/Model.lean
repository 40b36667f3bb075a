/-!
# Annotations and models

A model is a class of documents.  Its members have annotations, which may nest
other models, and aliases, under which they are stored.
-/

namespace SearchQuery

/-!
## Annotations

The annotation of a member says what kind of value it holds.  Models may occur
anywhere inside it, and the first one from left to right is the model that a
path continues into.  Values may stand where types do: those that a literal
allows, and remarks on an annotated type.
-/

/-- The name of a model, with the module that declares it. -/
structure ModelName where
  home : String
  name : String
deriving DecidableEq

def ModelName.base : ModelName :=
  ⟨"pydantic.main", "BaseModel"⟩

/-- What a member holds. -/
inductive Annotation where
  | scalar (kind : String)
  | constant (shown : String)
  | literal (values : List String)
  | model (m : ModelName)
  | list (element : Annotation)
  | optional (element : Annotation)
  | dict (key value : Annotation)
  | tuple (elements : List Annotation)
  | sequence (element : Annotation)
  | union (alternatives : List Annotation)
  | classOf (element : Annotation)
  | annotated (element : Annotation) (remarks : List Annotation)

namespace Annotation

mutual

def nested : Annotation → Option ModelName
  | .scalar _ => none
  | .constant _ => none
  | .literal _ => none
  | .model m => some m
  | .list element => nested element
  | .optional element => nested element
  | .dict key value =>
    match nested key with
    | some m => some m
    | none => nested value
  | .tuple elements => nestedFirst elements
  | .sequence element => nested element
  | .union alternatives => nestedFirst alternatives
  | .classOf element => nested element
  | .annotated element remarks =>
    match nested element with
    | some m => some m
    | none => nestedFirst remarks

/-- The model of the first annotation that has one. -/
def nestedFirst : List Annotation → Option ModelName
  | [] => none
  | a :: rest =>
    match nested a with
    | some m => some m
    | none => nestedFirst rest

end

mutual

def models : Annotation → List ModelName
  | .scalar _ => []
  | .constant _ => []
  | .literal _ => []
  | .model m => [m]
  | .list element => models element
  | .optional element => models element
  | .dict key value => models key ++ models value
  | .tuple elements => modelsOf elements
  | .sequence element => models element
  | .union alternatives => modelsOf alternatives
  | .classOf element => models element
  | .annotated element remarks => models element ++ modelsOf remarks

def modelsOf : List Annotation → List ModelName
  | [] => []
  | a :: rest => models a ++ modelsOf rest

end

mutual

/-- A path continues into the first model that is written in an annotation. -/
theorem nested_eq_head? (a : Annotation) : nested a = (models a).head? := by
  cases a with
  | scalar kind => rfl
  | constant shown => rfl
  | literal values => rfl
  | model m => rfl
  | list element => exact nested_eq_head? element
  | optional element => exact nested_eq_head? element
  | dict key value =>
      rw [nested, models, List.head?_append, nested_eq_head? key, nested_eq_head? value]
      cases (models key).head? <;> rfl
  | tuple elements => exact nestedFirst_eq_head? elements
  | sequence element => exact nested_eq_head? element
  | union alternatives => exact nestedFirst_eq_head? alternatives
  | classOf element => exact nested_eq_head? element
  | annotated element remarks =>
      rw [nested, models, List.head?_append, nested_eq_head? element, nestedFirst_eq_head? remarks]
      cases (models element).head? <;> rfl

/-- A path continues into the first model that is written in a list of annotations. -/
theorem nestedFirst_eq_head? (as : List Annotation) : nestedFirst as = (modelsOf as).head? := by
  cases as with
  | nil => rfl
  | cons a rest =>
      rw [nestedFirst, modelsOf, List.head?_append, nested_eq_head? a, nestedFirst_eq_head? rest]
      cases (models a).head? <;> rfl

end

mutual

def shown : Annotation → String
  | .scalar kind => kind
  | .constant shown => shown
  | .literal values => "typing.Literal[" ++ ", ".intercalate values ++ "]"
  | .model m => m.home ++ "." ++ m.name
  | .list element => "list[" ++ shown element ++ "]"
  | .optional element => shown element ++ " | None"
  | .dict key value => "dict[" ++ shown key ++ ", " ++ shown value ++ "]"
  | .tuple elements => "tuple[" ++ ", ".intercalate (shownAll elements) ++ "]"
  | .sequence element => "tuple[" ++ shown element ++ ", ...]"
  | .union alternatives => " | ".intercalate (shownAll alternatives)
  | .classOf element => "type[" ++ shown element ++ "]"
  | .annotated element _ => shown element

def shownAll : List Annotation → List String
  | [] => []
  | a :: rest => shown a :: shownAll rest

end

/-- Whether an annotation, as an object, can be gone through; its only item is the unpacked one. -/
def isIterable : Annotation → Bool
  | .literal _ => true
  | .list _ => true
  | .dict .. => true
  | .tuple _ => true
  | .sequence _ => true
  | .classOf _ => true
  | _ => false

/-- The kind of an annotation as an object, unpacked or not. -/
def kind (unpacked : Bool) : Annotation → String
  | .literal _ => if unpacked then "_UnpackGenericAlias" else "_LiteralGenericAlias"
  | .optional _ => "UnionType"
  | .union _ => "UnionType"
  | .annotated .. => "_AnnotatedAlias"
  | _ => "GenericAlias"

end Annotation

/-!
## Models

A model declares named members in order, says whether documents may hold
members it does not declare, and may extend another model.  A catalog gives
every model name its declaration with the inherited members filled in.
-/

/-- What a model does with members it does not declare. -/
inductive Extra where
  | allow
  | ignore
  | forbid
deriving DecidableEq

/-- A declared member.  The general alias and the one meant for storing rename
it in stored documents; the one meant for reading does not. -/
structure Member where
  name : String
  content : Annotation
  generalAlias : Option String
  storedAlias : Option String
  readAlias : Option String

/-- The name of a member in stored documents: the alias meant for storing, else
the general alias, else its own name; an empty alias counts as absent. -/
def Member.storedName (m : Member) : String :=
  match m.storedAlias, m.generalAlias with
  | some stored, some general =>
    if stored ≠ "" then stored else if general ≠ "" then general else m.name
  | some stored, none => if stored ≠ "" then stored else m.name
  | none, some general => if general ≠ "" then general else m.name
  | none, none => m.name

/-- The name of a member in what a document is made from: the alias meant for
reading, else the general alias, else its own name. -/
def Member.readName (m : Member) : String :=
  (m.readAlias.orElse (fun _ => m.generalAlias)).getD m.name

/-- A model with all its members, the inherited ones included. -/
structure Model where
  members : List Member
  extra : Extra
  ancestors : List ModelName

abbrev Catalog := ModelName → Model

namespace Model

/-- A model without members that extends nothing. -/
def empty : Model :=
  ⟨[], .ignore, []⟩

def member? (m : Model) (name : String) : Option Member :=
  m.members.find? (fun member => member.name == name)

/-- The member a path segment means: one of that name, else the first one stored under it. -/
def lookup? (m : Model) (segment : String) : Option Member :=
  match m.member? segment with
  | some member => some member
  | none => m.members.find? (fun member => member.storedName == segment)

/-- Inherited members in place, redefined where a new one has the same name,
followed by the new ones. -/
def mergeMembers (inherited own : List Member) : List Member :=
  inherited.map (fun old => (own.find? (fun new => new.name == old.name)).getD old) ++
    own.filter (fun new => !inherited.any (fun old => old.name == new.name))

end Model

/-- A declaration as written: only the new members. -/
structure Declaration where
  name : ModelName
  extending : Option ModelName
  extra : Option Extra
  members : List Member

namespace Catalog

def empty : Catalog :=
  fun _ => Model.empty

def expand (c : Catalog) (d : Declaration) : Model :=
  match d.extending with
  | none => ⟨d.members, d.extra.getD .ignore, [ModelName.base]⟩
  | some parent =>
    let inherited := c parent
    ⟨Model.mergeMembers inherited.members d.members, d.extra.getD inherited.extra,
      parent :: inherited.ancestors⟩

def declare (c : Catalog) (d : Declaration) : Catalog :=
  let model := c.expand d
  fun name => if name = d.name then model else c name

def inherits (c : Catalog) (model owner : ModelName) : Bool :=
  model == owner || (c model).ancestors.contains owner

/-- The model reached from a model by a chain of member names; there is none
below a member without a nested model.  A name that no member has is given back. -/
def reach (c : Catalog) : Option ModelName → List String → Except String (Option ModelName)
  | current, [] => .ok current
  | none, _ :: _ => .ok none
  | some m, name :: rest =>
    match (c m).member? name with
    | none => .error name
    | some member => reach c member.content.nested rest

/-- A segment that the model reached by the path does not have. -/
structure UnknownSegment where
  model : ModelName
  segment : String
deriving DecidableEq

/-- The stored names along a path.  Segments are looked up in the model reached
so far; once there is none, or a model that allows undeclared members has no
such member, the rest of the path stands for itself. -/
def storedNames (c : Catalog) : Option ModelName → List String → Except UnknownSegment (List String)
  | none, rest => .ok rest
  | some _, [] => .ok []
  | some m, segment :: rest =>
    match (c m).lookup? segment with
    | some member =>
      match storedNames c member.content.nested rest with
      | .ok names => .ok (member.storedName :: names)
      | .error unknown => .error unknown
    | none =>
      if (c m).extra = .allow then .ok (segment :: rest) else .error ⟨m, segment⟩

end Catalog

end SearchQuery
