import SearchQuery.Workspace

/-!
# The command line

A run reads its arguments, renders the definition that a target leads to and
prints its document.
-/

namespace SearchQuery

/-!
## Arguments of the command line

The only command renders a definition.  Its parameters are given by options or
by position, in the order target, schema, stage, index, indentation.  Options
are found first; what is left over is taken by position.
-/

namespace CommandLine

/-- Why arguments are not understood. -/
inductive UsageError where
  | unknownCommand
  | unknownOption
  | missingArgument
  | repeatedArgument
  | argumentOrder
  | unusedTokens
  | badValue
  | notFinite
deriving DecidableEq

namespace UsageError

def text : UsageError → String
  | .unknownCommand => "unknown command, expected: render TARGET [OPTIONS]"
  | .unknownOption => "unknown option"
  | .missingArgument => "an argument is missing"
  | .repeatedArgument => "an argument is given twice"
  | .argumentOrder => "an argument by position follows one that is given by an option"
  | .unusedTokens => "too many arguments"
  | .badValue => "an argument has a value that it cannot have"
  | .notFinite => "an argument is a number that is too large"

end UsageError

/-- The parameters in order. -/
inductive Slot where
  | target
  | schema
  | stage
  | index
  | indent
deriving DecidableEq

namespace Slot

def all : List Slot :=
  [.target, .schema, .stage, .index, .indent]

def ofOption? : String → Option Slot
  | "--target" => some .target
  | "--schema" => some .schema
  | "-s" => some .schema
  | "--stage" => some .stage
  | "--index" => some .index
  | "-i" => some .index
  | "--indent" => some .indent
  | _ => none

end Slot

abbrev Given := List (Slot × String)

namespace Given

def get? (g : Given) (slot : Slot) : Option String :=
  (g.find? (fun entry => entry.1 == slot)).map Prod.snd

/-- One more token, for a parameter that has none yet. -/
def put (g : Given) (slot : Slot) (token : String) : Except UsageError Given :=
  if (g.get? slot).isSome then .error .repeatedArgument else .ok (g ++ [(slot, token)])

end Given

def isNumeric (token : String) : Bool :=
  (Number.readDouble? 0 token).isSome

/-- Whether a token looks like an option; negative numbers do not. -/
def isOptionLike (token : String) : Bool :=
  token.startsWith "-" && !isNumeric token

/-- An option and the value after its equals sign, if it has one. -/
def cutOption (token : String) : String × Option String :=
  let chars := token.toList
  match chars.dropWhile (· != '=') with
  | [] => (token, none)
  | _ :: value => (String.ofList (chars.takeWhile (· != '=')), some (String.ofList value))

def cutAttached? (token : String) : Option (Slot × String) :=
  match token.toList with
  | '-' :: letter :: c :: rest => do
    let slot ← Slot.ofOption? (String.ofList ['-', letter])
    some (slot, String.ofList (c :: rest))
  | _ => none

/-- A token that is no option of its own: an option with its value attached, or
a token to be taken by position. -/
def takeOther (given : Given) (left : List String) (token : String) :
    Except UsageError (Given × List String) :=
  match cutAttached? token with
  | some (slot, value) => do
    let given ← given.put slot value
    return (given, left)
  | none => .ok (given, left ++ [token])

/-- Finds the options among tokens; the other tokens come back in order. -/
def takeOptions (given : Given) (left : List String) :
    List String → Except UsageError (Given × List String)
  | [] => .ok (given, left)
  | token :: rest =>
    if !token.startsWith "-" then takeOptions given (left ++ [token]) rest
    else
      match cutOption token with
      | (name, some value) =>
        match Slot.ofOption? name with
        | some slot => do
          let given ← given.put slot value
          takeOptions given left rest
        | none => do
          let (given, left) ← takeOther given left token
          takeOptions given left rest
      | (name, none) =>
        match Slot.ofOption? name with
        | none => do
          let (given, left) ← takeOther given left token
          takeOptions given left rest
        | some slot =>
          match rest with
          | [] => .error .missingArgument
          | value :: rest =>
            if isOptionLike value then .error .missingArgument
            else do
              let given ← given.put slot value
              takeOptions given left rest

/-- A token to be taken by position, and whether it is one even when it looks
like an option. -/
structure Positional where
  token : String
  forced : Bool

/-- Gives tokens to parameters by position.  A parameter given by an option may
not be followed by one given by position. -/
def takePositions (given : Given) (skipped : Bool) :
    List Slot → List Positional → Except UsageError (Given × List Positional)
  | _, [] => .ok (given, [])
  | [], left => .ok (given, left)
  | slot :: slots, p :: rest =>
    if (given.get? slot).isSome then takePositions given true slots (p :: rest)
    else if isOptionLike p.token && (skipped || !p.forced) then .error .unknownOption
    else if skipped then .error .argumentOrder
    else takePositions (given ++ [(slot, p.token)]) skipped slots rest

/-- A number to the nearest integer, a half to the even neighbour. -/
def roundEven (q : Rat) : Int :=
  let low := q.floor
  let rest := q - low
  if rest < 1 / 2 then low
  else if 1 / 2 < rest then low + 1
  else if low % 2 = 0 then low
  else low + 1

/-- An integer in the digits of a base, which an underscore may separate from
the marker in front of them; white space may follow. -/
def basedInt? (base : Nat) (digits : List Char) : Option Int := do
  let closed := ((digits.map Number.plainChar).reverse.dropWhile Number.isBlank).reverse
  let body := match closed with
    | '_' :: rest => rest
    | closed => closed
  let plain ← Number.dropUnderscores? (fun c => (Text.hexValue? c).isSome) false body
  if plain.isEmpty then none
  else
    let n ← plain.foldlM (fun total c => do
      let d ← Text.hexValue? c
      if d < base then some (total * base + d) else none) 0
    some (n : Int)

/-- Reads an integer: in decimal digits, with a marker of another base, or as a
number with a point, which is rounded and must be finite. -/
def readIndent (token : String) : Except UsageError Int :=
  let known : Option Int → Except UsageError Int := fun n? =>
    match n? with
    | some n => .ok n
    | none => .error .badValue
  match token.toList.map Char.toLower with
  | '0' :: 'x' :: digits => known (basedInt? 16 digits)
  | '0' :: 'o' :: digits => known (basedInt? 8 digits)
  | '0' :: 'b' :: digits => known (basedInt? 2 digits)
  | chars =>
    if chars.contains '.' then
      match Number.readDouble? 0 token with
      | some (.finite negative magnitude) =>
        .ok (if negative then -roundEven magnitude else roundEven magnitude)
      | some (.infinite _) => .error .notFinite
      | _ => .error .badValue
    else known (Number.readInt? token)

def toRequest (given : Given) : Except UsageError Request := do
  let some target := given.get? .target | throw .missingArgument
  let wrapping ← match given.get? .stage with
    | none => pure .search
    | some token =>
      match Wrapping.ofText? token with
      | some wrapping => pure wrapping
      | none => throw .badValue
  let indent ← match given.get? .indent with
    | none => pure 2
    | some token => readIndent token
  let optional := fun slot => Value.ofOption .text (given.get? slot)
  return ⟨.text target, optional .schema, wrapping, optional .index, .int indent⟩

/-- The tokens before and after the first lone pair of hyphens. -/
def cutDelimiter (tokens : List String) : List String × List String :=
  (tokens.takeWhile (· != "--"), (tokens.dropWhile (· != "--")).drop 1)

def readRender (tokens : List String) : Except UsageError Request := do
  let (before, after) := cutDelimiter tokens
  let (given, left) ← takeOptions [] [] before
  let positions := left.map (Positional.mk · false) ++ after.map (Positional.mk · true)
  let (given, left) ← takePositions given false Slot.all positions
  let request ← toRequest given
  if left.isEmpty then return request
  else throw (if left.any (fun p => isOptionLike p.token) then .unknownOption else .unusedTokens)

def read : List String → Except UsageError Request
  | "render" :: tokens => readRender tokens
  | _ => .error .unknownCommand

end CommandLine

/-!
## Rendering a definition

A definition is loaded from a workspace, rendered with or without a schema, and
printed as extended JSON.  What a user can get wrong is reported; other faults
are not caught.
-/

namespace CommandLine

/-- Why a definition is not rendered. -/
inductive RenderError where
  | fault (f : Fault Value)
  | target (e : TargetError)
  | notDefinition (target kind : String)

namespace RenderError

/-- Whether a fault is a mistake of the user, and not one of the program. -/
def isReported : Fault Value → Bool
  | .invalid .. => true
  | .outOfRange .. => true
  | .unresolved .. => true
  | .general _ => true
  | .refused .badValue => true
  | .refused (.unfilled ..) => true
  | .told .. => true
  | _ => false

def message? : RenderError → Option String
  | .fault f => if isReported f then some f.message else none
  | .target e => some e.text
  | .notDefinition wanted kind =>
    some (wanted ++ " is not a search definition: " ++ kind)

def toFault : RenderError → Fault Value
  | .fault f => f
  | .target (.noModule _) => .refused .noModule
  | .target (.notPackage ..) => .refused .noModule
  | .target _ => .refused .badValue
  | .notDefinition .. => .refused .badValue

end RenderError

abbrev Step (α : Type) := ExceptT RenderError (StateM Session) α

namespace Step

def ofAction {α : Type} (action : Action α) : Step α := fun s =>
  match action s with
  | (.ok a, after) => (.ok a, after)
  | (.error f, after) => (.error (.fault f), after)

/-- A step that only checks. -/
def ofChecked {α : Type} (outcome : Checked α) : Step α :=
  ofAction (Action.ofChecked outcome)

def ofTarget {α : Type} (outcome : Except TargetError α) : Step α :=
  match outcome with
  | .ok a => pure a
  | .error e => throw (.target e)

end Step

def find (w : Workspace) (wanted : Value) : Step Found := do
  let target ← Step.ofChecked (Target.textOf wanted)
  let some t := Target.ofText? target | throw (.target (.malformed target))
  if t.isRelative then throw (.fault (.refused .wrongType))
  let m ← Step.ofTarget (w.load t.home)
  let c ← Step.ofAction Action.catalog
  match ← Step.ofChecked ((Found.home m).follow w c (Text.segments t.chain)) with
  | some found => return found
  | none => throw (.target (.noAttribute t.home t.chain))

/-- The operator that a target leads to, or that it makes when called. -/
def loadOperator (w : Workspace) (target : Value) : Step (Operator Value) := do
  let found ← find w target
  match ← Step.ofAction (found.toValue w) with
  | .node (.operator op) => return op
  | v => throw (.notDefinition target.shown v.kind)

/-- The value of an object that is a schema by itself: nothing, a model, or a schema. -/
def schemaValue? : Found → Option Value
  | .value .null => some .null
  | .value (.node (.model m)) => some (.node (.model m))
  | .value (.node (.schema s tag)) => some (.node (.schema s tag))
  | _ => none

/-- The schema that an object stands for, as a value.  Any other object counts as one when it has
something under the name of the operation, but is of no use. -/
def schemaOf (w : Workspace) (c : Catalog) (found : Found) : Checked Value :=
  match schemaValue? found with
  | some v => .ok v
  | none => do
    match ← found.part w c "resolve" with
    | none => throw (.invalid "schema" found.asValue .expectedSchema)
    | some (.value .null) => throw (.invalid "schema" found.asValue .expectedSchema)
    | some _ => return .node (.schema .unusable 0)

/-- The schema that a target leads to; none for an empty target. -/
def loadSchema (w : Workspace) (target : Value) : Step Value := do
  if !target.truth then return .null
  else
    let found ← find w target
    Step.ofChecked (schemaOf w (← Step.ofAction Action.catalog) found)

/-- The index to search: the one that is given, unless it counts as false, else
the one of the environment, unless it is empty. -/
def chosenIndex (given : Value) (environment : Option String) : Value :=
  if given.truth then given else .ofOption .text (environment.filter (· ≠ ""))

/-- The document of a request; an index from the environment counts when the
request has none. -/
def document (w : Workspace) (environment : Option String) (r : Request) : Step Value := do
  let op ← loadOperator w r.target
  let schema ← loadSchema w r.schema
  let index := chosenIndex r.index environment
  let c ← Step.ofAction Action.catalog
  let query := Value.ofOperator op
  Step.ofChecked (match r.wrapping with
    | .search => Stage.search c query schema .null index .null false
    | .searchMeta => Stage.searchMeta c query schema index .null
    | .bare => query.document c (some schema))

/-- What a run of the program prints, and its exit code. -/
structure Outcome where
  code : Nat
  stdout : String
  stderr : String
deriving DecidableEq

/-- The outcome of a request, unless a fault escapes. -/
def run (w : Workspace) (environment : Option String) (r : Request) (s : Session) :
    Except (Fault Value) Outcome :=
  match document w environment r s with
  | (.ok v, _) =>
    match ExtendedJson.print r.indent v with
    | .ok text => .ok ⟨0, text ++ "\n", ""⟩
    | .error f => .error f
  | (.error e, _) =>
    match e.message?, e with
    | some message, _ => .ok ⟨1, "", "Error: " ++ message ++ "\n"⟩
    | none, .fault f => .error f
    | none, _ => .ok ⟨1, "", ""⟩

def Step.outcome {α : Type} (step : Step α) (wrap : α → Value) (s : Session) : Checked Value :=
  match step s with
  | (.ok a, _) => .ok (wrap a)
  | (.error e, _) => .error e.toFault

/-- What surrounds a script in a workspace, given the modules of kinds. -/
def host (w : Workspace) (c : Catalog) (homes : String → String) (index : Option String) : Host :=
  let s := Session.start c { Host.bare with homes := homes }
  ⟨homes, index, fun target => (find w target).outcome Found.asValue s,
    fun target => (loadOperator w target).outcome Value.ofOperator s,
    fun r => match run w index r s with
      | .ok outcome => if outcome.code = 0 then .ok .null else .error (.refused .stopped)
      | .error f => .error f⟩

end CommandLine

end SearchQuery
