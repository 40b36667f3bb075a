import SearchQuery.Script.Library

/-!
# Scripts

Expressions are evaluated in a session, and questions are asked about what they
give.
-/

namespace SearchQuery

/-!
## Expressions

A script builds values by expressions.  They are evaluated from left to right,
arguments before the call, and the first fault ends the evaluation.
-/

/-- An expression that builds a value. -/
inductive Expr where
  | literal (v : Value)
  | notANumber
  | notADecimal (negative signaling : Bool) (payload : Nat)
  | list (items : List Expr)
  | tuple (items : List Expr)
  | set (items : List Expr)
  | dict (entries : List (Expr × Expr))
  | stream (items : List Expr)
  | shape (outline : Expr)
  | blank
  | prepending (text : String)
  | bundle (entries : List (String × Expr))
  | global (name : String)
  | bound (name : String)
  | call (name : String) (args : List Expr) (named : List (String × Expr))
  | method (name : String) (receiver : Expr) (args : List Expr) (named : List (String × Expr))
  | part (name : String) (of : Expr)
  | item (key of : Expr)

namespace Expr

/-- The variable whose dictionary a call changes: adding a score to a body does
so in place. -/
def changed? (name : String) (args : List Expr) (named : List (String × Expr)) : Option String :=
  if name = "add_score" then
    match args.head?.orElse
        (fun _ => (named.find? (fun entry => entry.1 == "body")).map Prod.snd) with
    | some (.bound x) => some x
    | _ => none
  else none

mutual

def eval : Expr → Action Value
  | .literal v => pure v
  | .notANumber => do
    return .number (.double (.nan (← Action.fresh)))
  | .notADecimal negative signaling payload => do
    return .decimal (.nan negative signaling payload (← Action.fresh))
  | .list items => do
    return .list (← evalAll items)
  | .tuple items => do
    return .tuple (← evalAll items)
  | .set items => do
    let vs ← evalAll items
    if vs.all Value.hashable then return .set vs else throw (.refused .wrongType)
  | .dict entries => do
    return .dict (← evalEntries [] entries)
  | .stream items => do
    let vs ← evalAll items
    return .stream (← Action.fresh) vs
  | .shape outline => do
    let v ← eval outline
    return .shape (← Action.fresh) v
  | .blank => do
    return .blank (← Action.fresh)
  | .prepending text => do
    return .node (.schema (.prepending text) (← Action.fresh))
  | .bundle entries => do
    return .node (.bundle (← evalNamed entries))
  | .global name => do
    match Library.global? (← get).host.homes name with
    | some v => pure v
    | none => throw (.unbound name)
  | .bound name => Action.bound name
  | .call name args named => do
    let vs ← evalAll args
    let ns ← evalNamed named
    let v ← Library.call name vs ns
    Action.change (changed? name args named) v
    return v
  | .method name receiver args named => do
    let v ← eval receiver
    let found ← Method.find v name
    let vs ← evalAll args
    let ns ← evalNamed named
    Method.call v found vs ns
  | .part name of => do
    Library.attributeOf (← eval of) name
  | .item key of => do
    let v ← eval of
    let k ← eval key
    Action.ofChecked (v.item (← Action.catalog) k)

def evalAll : List Expr → Action (List Value)
  | [] => pure []
  | e :: rest => do
    let v ← eval e
    let others ← evalAll rest
    return v :: others

def evalNamed : List (String × Expr) → Action (List (String × Value))
  | [] => pure []
  | (name, e) :: rest => do
    let v ← eval e
    let others ← evalNamed rest
    return (name, v) :: others

/-- Entries with those of further keys and values; a later key replaces an equal one. -/
def evalEntries (entries : List (Value × Value)) : List (Expr × Expr) →
    Action (List (Value × Value))
  | [] => pure entries
  | (key, e) :: rest => do
    let k ← eval key
    let v ← eval e
    if k.hashable then evalEntries (Value.insert k v entries) rest
    else throw (.refused .wrongType)

end

end Expr

/-!
## Questions

What can be asked of the values of a script: the values themselves, their
documents and texts, their kinds, and which of them are equal.
-/

/-- A question about the values of expressions. -/
inductive Question where
  | value (e : Expr)
  | document (e : Expr) (schema : Option Expr)
  | documentText (e : Expr) (schema : Option Expr) (indent : Value)
  | text (e : Expr) (indent : Value)
  | shown (e : Expr)
  | plain (e : Expr)
  | kind (e : Expr)
  | kindsAmong (e : Expr) (kinds : List String)
  | equal (a b : Expr)
  | distinct (items : List Expr)
  | bind (name : String) (e : Expr)

/-- The answer to a question. -/
inductive Answer where
  | value (v : Value)
  | text (s : String)
  | flag (b : Bool)
  | names (names : List String)
  | count (n : Nat)

namespace Question

/-- The extended JSON text of a value, whose streams are gone through. -/
def print (indent v : Value) : Action Answer := do
  let v ← Action.current v
  Action.ofChecked (v.probe (← Action.catalog))
  Action.spend v.streams
  return .text (← Action.ofChecked (ExtendedJson.print indent v))

def render (e : Expr) (schema : Option Expr) : Action Value := do
  let v ← e.eval
  let s ← match schema with
    | none => pure none
    | some schema => do pure (some (← schema.eval))
  Action.ofChecked (v.document (← Action.catalog) s)

def answer : Question → Action Answer
  | .value e => do
    let v ← e.eval
    Action.ofChecked v.named
    return .value v
  | .document e schema => do
    return .value (← render e schema)
  | .documentText e schema indent => do
    print indent (← render e schema)
  | .text e indent => do
    print indent (← e.eval)
  | .shown e => do
    let v ← e.eval
    return .text (← Action.ofChecked v.shownText)
  | .plain e => do
    return .text (← Library.plainText (← e.eval))
  | .kind e => do
    return .text (← e.eval).kind
  | .kindsAmong e kinds => do
    let v ← e.eval
    let c ← Action.catalog
    return .names (← Action.ofChecked (kinds.filterM (v.isA c)))
  | .equal a b => do
    let x ← a.eval
    let y ← b.eval
    if x.comparable y then return .flag (x.equal y) else throw (.refused .decimalMalformed)
  | .distinct items => do
    let vs ← Expr.evalAll items
    if vs.all Value.hashable then
      return .count (Term.distinct (vs.map Value.toTerm)).length
    else throw (.refused .wrongType)
  | .bind name e => do
    let v ← e.eval
    modify (fun s => s.set name v)
    return .text v.kind

/-- The outcome of a question in a session, and the session after it. -/
def run (q : Question) (s : Session) : Except (Fault Value) Answer × Session :=
  q.answer s

/-- The outcomes of questions asked one after another. -/
def runAll (s : Session) : List Question → List (Except (Fault Value) Answer)
  | [] => []
  | q :: rest =>
    let (outcome, after) := q.run s
    outcome :: runAll after rest

end Question

end SearchQuery
