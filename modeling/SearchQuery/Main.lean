import SearchQuery.CommandLine
import SearchQuery.Notation

/-!
# The program

Renders a definition of a module.  Modules are read from files: the module
`shop.queries` is the JSON file `shop/queries.json`.  The samples are always
there, as the modules `samples.models` and `samples.queries`.
-/

namespace SearchQuery

namespace CommandLine

def indexVariable : String :=
  "ATLAS_SEARCH_INDEX"

/-- What has been loaded: the names of models, the modules, and the session in
which their values were made. -/
structure Loaded where
  models : Notation.ModelNames
  modules : List Module
  session : Session

namespace Loaded

def samples : Loaded :=
  let home := "samples.models"
  ⟨Samples.models home, [Samples.modelModule home, Samples.definitionModule "samples.queries" home],
    Session.start (Samples.catalog home) Host.bare⟩

def workspace (loaded : Loaded) : Workspace :=
  ⟨loaded.modules, Language.plain⟩

def add (loaded : Loaded) (home text : String) : Except String Loaded :=
  match Source.ofText? home loaded.models text with
  | none => .error ("Module " ++ Text.quoted home ++ " is not well formed")
  | some source =>
    match source.toModule home loaded.session with
    | (.ok m, session) =>
      .ok ⟨(source.declarations.map Declaration.name).reverse ++ loaded.models,
        m :: loaded.modules, session⟩
    | (.error f, _) => .error f.message

end Loaded

def pathOf (home : String) : String :=
  "/".intercalate (Text.segments home) ++ ".json"

def loadTarget (loaded : Loaded) (target : String) : IO (Except String Loaded) := do
  match Target.ofText? target with
  | none => return .ok loaded
  | some t =>
    if loaded.workspace.contains t.home then return .ok loaded
    else
      try return loaded.add t.home (← IO.FS.readFile (pathOf t.home))
      catch _ => return .ok loaded

def loadTargets (loaded : Loaded) : List String → IO (Except String Loaded)
  | [] => return .ok loaded
  | target :: rest => do
    match ← loadTarget loaded target with
    | .ok loaded => loadTargets loaded rest
    | .error message => return .error message

/-- Prints an error; the exit code says that there was one. -/
def fail (message : String) : IO UInt32 := do
  IO.eprintln ("Error: " ++ message)
  return 1

def perform (r : Request) : IO UInt32 := do
  match ← loadTargets Loaded.samples r.targets with
  | .error message => fail message
  | .ok loaded =>
    match run loaded.workspace (← IO.getEnv indexVariable) r loaded.session with
    | .error f => fail f.message
    | .ok outcome =>
      IO.print outcome.stdout
      IO.eprint outcome.stderr
      return UInt32.ofNat outcome.code

end CommandLine

end SearchQuery

def main (args : List String) : IO UInt32 :=
  match SearchQuery.CommandLine.read args with
  | .ok r => SearchQuery.CommandLine.perform r
  | .error e => SearchQuery.CommandLine.fail e.text
