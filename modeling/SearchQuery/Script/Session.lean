import SearchQuery.Build.Guard

/-!
# Requests, sessions and callables

A script works in a session, and calls what the library offers with arguments
that are bound to the parameters of a signature.
-/

namespace SearchQuery

/-!
## Requests

What is to be rendered, and how.  The parts of a request may be any values; one
that cannot be used is found out when its turn comes.
-/

/-- What the rendered document is wrapped in. -/
inductive Wrapping where
  | search
  | searchMeta
  | bare
deriving DecidableEq

namespace Wrapping

def ofText? : String → Option Wrapping
  | "search" => some .search
  | "meta" => some .searchMeta
  | "none" => some .bare
  | _ => none

/-- The wrapping of a value; what is no word for a wrapping leaves the document bare. -/
def ofValue (v : Value) : Wrapping :=
  (v.asWords?.bind (fun words => ofText? words.text)).getD .bare

end Wrapping

/-- What is to be rendered, and how; without an indentation all is on one line. -/
structure Request where
  target : Value
  schema : Value
  wrapping : Wrapping
  index : Value
  indent : Value

namespace Request

def targets (r : Request) : List String :=
  [r.target, r.schema].filterMap (fun v => v.asWords?.map Words.text)

end Request

/-!
## Sessions

A script runs in a session: a catalog of models, what surrounds the script, the
variables set so far, a supply of tags for objects without a value of their
own, and the streams that have been gone through.  A step that fails keeps what
it did to the session.
-/

/-- What surrounds a script: the modules that define its kinds, the index to
search by default, what a target leads to, as an object or as an operator, and
what is left for the script once a request has been printed. -/
structure Host where
  homes : String → String
  index : Option String
  object : Value → Checked Value
  definition : Value → Checked Value
  print : Request → Checked Value

def Host.bare : Host :=
  let nowhere : Value → Checked Value := fun _ => .error (.refused .noModule)
  ⟨fun _ => "", none, nowhere, nowhere, fun r => nowhere r.target⟩

/-- The state of a script. -/
structure Session where
  catalog : Catalog
  host : Host
  names : List (String × Value)
  nextTag : Nat
  spent : List Nat

abbrev Action (α : Type) := ExceptT (Fault Value) (StateM Session) α

namespace Session

/-- A session in which nothing has happened; the tag zero belongs to the schema
that needs no model. -/
def start (c : Catalog) (host : Host) : Session :=
  ⟨c, host, [], 1, []⟩

def set (s : Session) (name : String) (v : Value) : Session :=
  { s with names := (name, v) :: s.names.filter (fun entry => entry.1 != name) }

end Session

namespace Action

/-- A step that only checks. -/
def ofChecked {α : Type} (outcome : Checked α) : Action α :=
  match outcome with
  | .ok a => pure a
  | .error f => throw f

def fresh : Action Nat := do
  let s ← get
  set { s with nextTag := s.nextTag + 1 }
  return s.nextTag

def catalog : Action Catalog := do
  return (← get).catalog

def spend (tags : List Nat) : Action Unit :=
  modify (fun s => { s with spent := tags ++ s.spent })

/-- A value as it is now: streams that were gone through are empty. -/
def current (v : Value) : Action Value := do
  return v.without (← get).spent

/-- A stream as the tuple of the items left in it, which are then gone; any
other value as it is. -/
def drain (v : Value) : Action Value := do
  match ← current v with
  | .stream tag items =>
    spend [tag]
    return .tuple items
  | _ => return v

/-- A shape as it is now.  The streams that describe it are gone through; a
reference that offers keys describes nothing. -/
def readOutline (v : Value) : Action Value := do
  match v with
  | .shape tag (.node n) =>
    if ← ofChecked (Value.offers (← catalog) (.node n) "keys") then return .shape tag .null
    else return v
  | .shape _ outline =>
    let now ← current v
    spend outline.readStreams
    return now
  | v => return v

def change (target : Option String) (v : Value) : Action Unit :=
  match target with
  | some name => modify (fun s => s.set name v)
  | none => pure ()

def bound (name : String) : Action Value := do
  match (← get).names.find? (fun entry => entry.1 == name) with
  | some entry => current entry.2
  | none => throw (.unbound name)

end Action

/-!
## Callables

A script builds definitions by calling functions with arguments by position
and by name.  Every argument must find its parameter and every parameter its
argument, unless the parameter may be left out.
-/

/-- A parameter and what it is when it is left out, if it may be. -/
structure Parameter where
  name : String
  absent : Option Value

/-- The parameters of a callable: those given by position or by name, whether
further positional arguments are gathered, and those given by name only. -/
structure Signature where
  parameters : List Parameter
  gathers : Bool
  named : List Parameter

/-- The arguments of a call by parameter, and those gathered. -/
structure Arguments where
  values : List (String × Value)
  rest : List Value

/-- Something a script can call: a function or a kind, whose call makes a value of it. -/
structure Callable where
  name : String
  isKind : Bool
  signature : Signature
  run : Arguments → Action Value

namespace Parameter

def required (name : String) : Parameter :=
  ⟨name, none⟩

/-- A parameter that is null when left out. -/
def nullable (name : String) : Parameter :=
  ⟨name, some .null⟩

/-- A parameter with another value when left out. -/
def optional (name : String) (v : Value) : Parameter :=
  ⟨name, some v⟩

end Parameter

namespace Signature

/-- Parameters given by position or by name, and nothing else. -/
def plain (parameters : List Parameter) : Signature :=
  ⟨parameters, false, []⟩

/-- No parameter but any number of positional arguments. -/
def gathering (parameters : List Parameter) : Signature :=
  ⟨parameters, true, []⟩

/-- Gives positional arguments to parameters in order; the parameters and the
arguments that are left over come with them. -/
def assign : List Parameter → List Value → List (String × Value) × List Parameter × List Value
  | p :: ps, v :: vs =>
    let (given, vacant, extra) := assign ps vs
    ((p.name, v) :: given, vacant, extra)
  | ps, vs => ([], ps, vs)

/-- Completes parameters from named arguments and from what they are when left out. -/
def complete (named : List (String × Value)) : List Parameter → Option (List (String × Value))
  | [] => some []
  | p :: ps => do
    let v ← match named.find? (fun entry => entry.1 == p.name) with
      | some entry => some entry.2
      | none => p.absent
    let others ← complete named ps
    some ((p.name, v) :: others)

/-- The arguments of a call by parameter; none when an argument finds no
parameter or a parameter no argument. -/
def bind? (s : Signature) (args : List Value) (named : List (String × Value)) : Option Arguments :=
  let (given, unassigned, extra) := assign s.parameters args
  let expected := unassigned ++ s.named
  if !extra.isEmpty && !s.gathers then none
  else if !named.all (fun entry => expected.any (fun p => p.name == entry.1)) then none
  else
    match complete named expected with
    | some others => some ⟨given ++ others, extra⟩
    | none => none

end Signature

namespace Arguments

def get (a : Arguments) (name : String) : Value :=
  match a.values.find? (fun entry => entry.1 == name) with
  | some entry => entry.2
  | none => .null

end Arguments

namespace Callable

def function (name : String) (parameters : List Parameter) (run : Arguments → Action Value) :
    Callable :=
  ⟨name, false, .plain parameters, run⟩

def constructor (name : String) (parameters : List Parameter) (run : Arguments → Action Value) :
    Callable :=
  ⟨name, true, .plain parameters, run⟩

def family (name : String) : Callable :=
  ⟨name, true, .gathering [], fun _ => throw (.refused .wrongType)⟩

def call (f : Callable) (args : List Value) (named : List (String × Value)) : Action Value :=
  match f.signature.bind? args named with
  | some arguments => f.run arguments
  | none => throw (.refused .wrongType)

end Callable

end SearchQuery
