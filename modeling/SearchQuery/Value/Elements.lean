import SearchQuery.Value.Term

/-!
# What values are made of

What iterating over a value gives, what of it can be read only once, and the
references that values stand for.
-/

namespace SearchQuery

/-!
## Streams in values

A stream can be gone through once.  Afterwards nothing is left in it, wherever
it is held.
-/

namespace Value

mutual

def without (spent : List Nat) : Value → Value
  | .stream tag items => if spent.contains tag then .stream tag [] else .stream tag items
  | .list items => .list (withoutAll spent items)
  | .tuple items => .tuple (withoutAll spent items)
  | .set items => .set (withoutAll spent items)
  | .dict entries => .dict (withoutEntries spent entries)
  | .shape tag outline => .shape tag (without spent outline)
  | .null => .null
  | .bool b => .bool b
  | .number x => .number x
  | .decimal d => .decimal d
  | .text s => .text s
  | .bytes b => .bytes b
  | .dateTime t => .dateTime t
  | .day d => .day d
  | .objectId o => .objectId o
  | .special s => .special s
  | .blank tag => .blank tag
  | .node n => .node n

def withoutAll (spent : List Nat) : List Value → List Value
  | [] => []
  | v :: rest => without spent v :: withoutAll spent rest

def withoutEntries (spent : List Nat) : List (Value × Value) → List (Value × Value)
  | [] => []
  | (key, v) :: rest => (without spent key, without spent v) :: withoutEntries spent rest

end

mutual

/-- The streams that printing a value goes through. -/
def streams : Value → List Nat
  | .stream tag _ => [tag]
  | .list items => streamsOfAll items
  | .tuple items => streamsOfAll items
  | .set items => streamsOfAll items
  | .dict entries => streamsOfEntries entries
  | _ => []

def streamsOfAll : List Value → List Nat
  | [] => []
  | v :: rest => streams v ++ streamsOfAll rest

def streamsOfEntries : List (Value × Value) → List Nat
  | [] => []
  | (_, v) :: rest => streams v ++ streamsOfEntries rest

end

end Value

/-!
## Parts as values

Every part of a definition is a value in its own right.
-/

namespace Value

def ofQuery (q : Query) : Value :=
  .node (.query q)

def ofPath (p : Path) : Value :=
  .node (.path p)

def ofScore (score : Option Score) : Value :=
  .ofOption (fun s => .node (.score s)) score

def ofExpression (f : ScoreFunction) : Value :=
  .node (.expression f)

def ofSpan (s : Span) : Value :=
  .node (.span s)

def ofOperator (op : Operator Value) : Value :=
  .node (.operator op)

def ofFuzzy (fuzzy : Option Fuzzy) : Value :=
  .ofOption (fun f => .node (.fuzzy f)) fuzzy

def ofClauses (clauses : Option (List (Operator Value))) : Value :=
  .ofOption (fun ops => .tuple (ops.map ofOperator)) clauses

def ofLimit : Limit → Value
  | .number x => .number x
  | .date t => .dateTime t

def ofBound (bound : Option (Bound Value)) : Value :=
  .ofOption (fun b => .node (.bound (ofLimit b.limit) b.inclusive)) bound

def ofExact : Exact → Value
  | .flag b => .bool b
  | .id o => .objectId o

def ofOrigin : Origin → Value
  | .number x => .number x
  | .date t => .dateTime t
  | .point p => .node (.point p)

end Value

/-!
## Elements of values

What is found by going through a value: the items of a container, the keys of
a dictionary, the characters of a text, the bytes of a byte string, the
members of an enumeration, and for a class of containers the class itself,
unpacked.  Field references answer to positions as if they were member names,
so going through one fails on the first position.
-/

namespace Value

/-- The elements of a value that can be gone through. -/
def elements? : Value → Option (List Value)
  | .text s => some (s.toList.map (fun c => .text (String.singleton c)))
  | .bytes b => some (b.map (fun byte => .int byte.toNat))
  | .special (.binary b _) => some (b.map (fun byte => .int byte.toNat))
  | .list items => some items
  | .tuple items => some items
  | .set items => some items
  | .dict entries => some (entries.map Prod.fst)
  | .stream _ items => some items
  | .node (.code s _) => some (s.toList.map (fun c => .text (String.singleton c)))
  | .node (.classNamed _ name) =>
    match Choice.membersOf name with
    | [] => none
    | members => some (members.map (fun c => .node (.choice c)))
  | .node (.generic a _ held) => if a.isIterable then some [.node (.generic a true held)] else none
  | _ => none

def toItems (v : Value) : Except (Fault Value) (List Value) :=
  match v.elements? with
  | some items => .ok items
  | none =>
    match v with
    | .node (.field _) => .error (.noKey (.int 0))
    | .node (.looseField ..) => .error (.noKey (.int 0))
    | .node (.members ..) => .error (.noKey (.int 0))
    | .node (.looseMembers ..) => .error (.refused .wrongType)
    | _ => .error (.refused .wrongType)

/-- Whether a condition takes a value as true. -/
def truth : Value → Bool
  | .null => false
  | .bool b => b
  | .number x => !x.same (.int 0)
  | .text s => s ≠ ""
  | .bytes b => !b.isEmpty
  | .list items => !items.isEmpty
  | .tuple items => !items.isEmpty
  | .set items => !items.isEmpty
  | .dict entries => !entries.isEmpty
  | .decimal d => !d.extended.same (.finite 0)
  | .special (.binary b _) => !b.isEmpty
  | .node (.code s _) => s ≠ ""
  | _ => true

/-- Whether two values are one key of a mapping. -/
def sameKey (a b : Value) : Bool :=
  a.toTerm.matching b.toTerm

def find? (key : Value) : List (Value × Value) → Option Value
  | [] => none
  | (k, v) :: rest => if sameKey k key then some v else find? key rest

/-- Entries with one more: a key that is there already keeps its place. -/
def insert (key v : Value) : List (Value × Value) → List (Value × Value)
  | [] => [(key, v)]
  | (k, old) :: rest => if sameKey k key then (k, v) :: rest else (k, old) :: insert key v rest

def toPair (v : Value) : Except (Fault Value) (Value × Value) := do
  match ← v.toItems with
  | [key, second] => return (key, second)
  | _ => throw (.refused .badValue)

def entriesOfPairs (pairs : List (Value × Value)) : Except (Fault Value) (List (Value × Value)) :=
  pairs.foldlM (fun entries pair =>
    if pair.1.hashable then .ok (insert pair.1 pair.2 entries)
    else .error (.refused .wrongType)) []

/-- The dictionary that a value describes: its own entries, or those of its pairs. -/
def toEntries (v : Value) : Except (Fault Value) (List (Value × Value)) :=
  match v with
  | .dict entries => .ok entries
  | .node (.generic (.dict ..) ..) => .error (.refused .wrongType)
  | v => do
    let items ← v.toItems
    items.foldlM (fun entries item => do
      let (key, second) ← item.toPair
      if key.hashable then return insert key second entries
      else throw (.refused .wrongType)) []

def lookup (key : String) (entries : List (Value × Value)) : Option Value :=
  find? (.text key) entries

end Value

/-!
## Loose references

A reference made by hand leads where its model and its chain lead, whatever
they are: the chain is gone through, and every part of it is looked up in the
model reached so far.  What is no model has no members, and a part that is no
text is no member of any model.
-/

namespace Value

/-- How a value is named when an attribute is missing. -/
def ownerName (v : Value) : String :=
  match v with
  | .dateTime _ => "datetime.datetime"
  | .day _ => "datetime.date"
  | .decimal _ => "decimal.Decimal"
  | .node (.bundle _) => "types.SimpleNamespace"
  | .node (.generic ..) => "types.GenericAlias"
  | v => v.kind

def named? (name : String) (entries : List (String × Value)) : Option Value :=
  (entries.find? (fun entry => entry.1 == name)).map Prod.snd

def lacks (v : Value) (name : String) : Fault Value :=
  .noAttribute (.absent v.ownerName name)

/-- The fault of a missing attribute of any object: classes are named as such,
and some objects only repeat the name. -/
def absence (v : Value) (name : String) : Fault Value :=
  match v with
  | .node (.classNamed _ kind) =>
    if Kind.ofKind kind = "EnumType" then .noAttribute (.withheld name)
    else .noAttribute (.absentOnClass kind name)
  | .node (.model _) => .noAttribute (.withheld name)
  | .node (.field _) => .noAttribute (.withheld name)
  | .node (.looseField ..) => .noAttribute (.withheld name)
  | .node (.members ..) => .noAttribute (.withheld name)
  | .node (.looseMembers ..) => .noAttribute (.withheld name)
  | .node (.pointer ..) => .noAttribute (.withheld name)
  | v => lacks v name

/-- What an object that keeps its attributes in a table has under a name. -/
def kept (v : Value) (name : String) (found : Option Value) : Except (Fault Value) Value :=
  match found with
  | some part => .ok part
  | none => .error (v.absence name)

def nameOf (v : Value) : Except (Fault Value) Value :=
  match v with
  | .node (.model m) => .ok (.text m.name)
  | .node (.classNamed _ kind) => .ok (.text kind)
  | .node (.operation name) => .ok (.text name)
  | .node (.bundle entries) => v.kept "__name__" (named? "__name__" entries)
  | .node (.pointer _ _ _ others) => v.kept "__name__" (lookup "__name__" others)
  | v => .error (v.absence "__name__")

/-- Whether the names that show a value are there: a table of members names their model. -/
def named (v : Value) : Except (Fault Value) Unit :=
  match v with
  | .node (.looseMembers owner _) => do
    let _ ← owner.nameOf
  | _ => .ok ()

def shownText (v : Value) : Except (Fault Value) String := do
  v.named
  if v.isWritable then return v.shown else throw (.refused .badValue)

end Value

namespace Reference

/-- The elements of a value; going through a reference asks it for its first
position, which is no member. -/
def elements (c : Catalog) (v : Value) : Except (Fault Value) (List Value) :=
  match v with
  | .node (.field r) =>
    match c.reach (some r.owner) r.parts with
    | .error part => .error (.noKey (.text part))
    | .ok _ => .error (.noKey (.int 0))
  | v => v.toItems

/-- What a model and the parts of a chain lead to: a model, or null once there is none. -/
def reach (c : Catalog) : Value → List Value → Except (Fault Value) Value
  | v, [] => .ok v
  | .null, _ :: _ => .ok .null
  | .node (.model m), part :: rest =>
    match part with
    | .text name =>
      match (c m).member? name with
      | some member => reach c (.ofOption (fun m => .node (.model m)) member.content.nested) rest
      | none => .error (.noKey part)
    | part => .error (if part.hashable then .noKey part else .refused .wrongType)
  | v, _ :: _ => .error (v.absence "model_fields")

def joined (parts : List Value) : Except (Fault Value) String := do
  let texts ← parts.mapM (fun part => match part with
    | .text s => .ok s
    | .node (.code s _) => .ok s
    | _ => .error (.refused .wrongType))
  return Text.dotted texts

/-- A reference as a dotted name that starts with its model. -/
def text (c : Catalog) (owner parts : Value) : Except (Fault Value) String := do
  let name ← owner.nameOf
  let items ← elements c parts
  return name.plain ++ "." ++ (← joined items)

def make (owner : Value) (parts : List Value) : Value :=
  .ofField (Field.ofTerms owner.toTerm (.tuple (Value.terms parts)))

/-- A chain after it has been gone through; nothing is left of a stream. -/
def afterwards : Value → Value
  | .stream tag _ => .stream tag []
  | v => v

def member (c : Catalog) (owner parts name : Value) : Except (Fault Value) Value := do
  let model ← reach c owner (← elements c parts)
  let left := afterwards parts
  let items ← elements c left
  match model with
  | .null => throw (.noAttribute (.stated ((← text c owner left) ++ " is not a nested model")))
  | .node (.model m) =>
    let found := match name with
      | .text s => ((c m).member? s).isSome
      | _ => false
    if found then return make owner (items ++ [name])
    else if name.hashable then
      throw (.worded name.isWritable
        (.noAttribute (.stated (m.name ++ " has no field " ++ name.shown))))
    else throw (.refused .wrongType)
  | v => throw (v.absence "model_fields")

/-- A member as an item: a missing one is a missing key. -/
def item (c : Catalog) (owner parts key : Value) : Except (Fault Value) Value :=
  match member c owner parts key with
  | .error (.noAttribute _) => .error (.noKey key)
  | outcome => outcome

mutual

/-- Whether a model is a class or extends it, or one of a tuple of classes;
nothing extends what is no class. -/
def isBelow (c : Catalog) (m : ModelName) : Value → Except (Fault Value) Bool
  | .node (.model owner) => .ok (c.inherits m owner)
  | .node (.classNamed _ kind) => .ok (kind == "object")
  | .tuple owners => isBelowAny c m owners
  | _ => .error (.refused .wrongType)

/-- Whether a model is one of several classes or extends it, tried in order. -/
def isBelowAny (c : Catalog) (m : ModelName) : List Value → Except (Fault Value) Bool
  | [] => .ok false
  | owner :: rest => do
    if ← isBelow c m owner then return true else isBelowAny c m rest

end

def isSequence : Value → Bool
  | .text _ => true
  | .bytes _ => true
  | .special (.binary ..) => true
  | .node (.code ..) => true
  | .list _ => true
  | .tuple _ => true
  | _ => false

def find? (c : Catalog) (m : ModelName) : Value → Option Member
  | .text s => (c m).lookup? s
  | _ => none

/-- The stored names along a chain, looked up in the model reached so far.  What
is left of the chain once there is no model stands for itself; it is cut off
from the chain, which must allow that. -/
def storedParts (c : Catalog) (field : Value) (sequence : Bool) :
    Option ModelName → List Value → Except (Fault Value) (List Value)
  | _, [] => .ok []
  | none, rest => if sequence then .ok rest else .error (.refused .wrongType)
  | some m, part :: rest =>
    if !part.hashable then .error (.refused .wrongType)
    else
      match find? c m part with
      | some member => do
        let names ← storedParts c field sequence member.content.nested rest
        return .text member.storedName :: names
      | none =>
        if (c m).extra ≠ .allow then
          .error (.worded part.isWritable (.mismatch field (.unknownPart m.name part.shown)))
        else if sequence then .ok (part :: rest)
        else .error (.refused .wrongType)

def serialize (c : Catalog) (m : ModelName) (field parts : Value) :
    Except (Fault Value) String := do
  let items ← elements c parts
  joined (← storedParts c field (isSequence parts) (some m) items)

def resolve (c : Catalog) (m : ModelName) (owner parts : Value) : Except (Fault Value) String := do
  let field := Value.node (.looseField owner parts)
  if ← isBelow c m owner then serialize c m field parts
  else
    let name ← owner.nameOf
    throw (.mismatch field (.foreign name.plain m.name))

end Reference

end SearchQuery
