import SearchQuery.Number
import SearchQuery.Model
import SearchQuery.Time

/-!
# Plain data

Terms are plain data: what values hold once the nodes of definitions are taken
for their parts.  Two values are equal, and have the same text, when their terms
are and have.
-/

namespace SearchQuery

/-!
## Choices

The enumerations that operators and options choose from, and the words and
names of their members.
-/

/-- How the terms of an autocompletion follow one another. -/
inductive TokenOrder where
  | any
  | sequential
deriving DecidableEq

/-- How precisely a stage counts its matches. -/
inductive CountType where
  | lowerBound
  | total
deriving DecidableEq

/-- How a stored shape lies with respect to a given one. -/
inductive ShapeRelation where
  | contains
  | disjoint
  | intersects
  | within
deriving DecidableEq

namespace TokenOrder

def word : TokenOrder → String
  | .any => "any"
  | .sequential => "sequential"

end TokenOrder

namespace CountType

def word : CountType → String
  | .lowerBound => "lowerBound"
  | .total => "total"

end CountType

namespace ShapeRelation

def word : ShapeRelation → String
  | .contains => "contains"
  | .disjoint => "disjoint"
  | .intersects => "intersects"
  | .within => "within"

def number : ShapeRelation → Nat
  | .contains => 1
  | .disjoint => 2
  | .intersects => 3
  | .within => 4

end ShapeRelation

/-- A member of one of the enumerations. -/
inductive Choice where
  | order (o : TokenOrder)
  | count (c : CountType)
  | relation (r : ShapeRelation)
deriving DecidableEq

namespace Choice

def enumeration : Choice → String
  | .order _ => "AutocompleteTokenOrder"
  | .count _ => "CountType"
  | .relation _ => "GeoShapeRelation"

def name : Choice → String
  | .order .any => "ANY"
  | .order .sequential => "SEQUENTIAL"
  | .count .lowerBound => "LOWER_BOUND"
  | .count .total => "TOTAL"
  | .relation .contains => "CONTAINS"
  | .relation .disjoint => "DISJOINT"
  | .relation .intersects => "INTERSECTS"
  | .relation .within => "WITHIN"

/-- Every member of every enumeration, in order of declaration. -/
def all : List Choice :=
  [.order .any, .order .sequential, .count .lowerBound, .count .total,
    .relation .contains, .relation .disjoint, .relation .intersects, .relation .within]

def membersOf (enumeration : String) : List Choice :=
  all.filter (fun c => c.enumeration == enumeration)

end Choice

/-!
## Stored data

Data types that stored documents have and JSON lacks: identifiers, byte
strings with a subtype, 128-bit decimals, timestamps, regular expressions and
the extreme keys.
-/

/-- The identifier of a document, in lower-case hexadecimal. -/
structure ObjectId where
  hex : String
deriving DecidableEq

/-- A part of a timestamp: an integer, or a truth value that counts as one. -/
inductive Tick where
  | whole (w : Whole)
  | flag (b : Bool)
deriving DecidableEq

def Tick.value : Tick → Int
  | .whole w => w.value
  | .flag b => if b then 1 else 0

/-- What a regular expression is made of. -/
inductive Pattern where
  | text (s : String)
  | bytes (b : List UInt8)
deriving DecidableEq

/-- Data types that only stored documents have. -/
inductive Special where
  | decimal128 (d : Decimal)
  | binary (bytes : List UInt8) (subtype : Nat)
  | timestamp (time increment : Tick)
  | regex (pattern : Pattern) (flags : Nat)
  | minKey
  | maxKey
deriving DecidableEq

/-!
## Terms

The plain form of a value: data, containers, and records that name their kind
and their fields.  Values are shown and compared by their terms, and the parts
of a definition that may be anything at all are kept as terms.

A token has no parts.  A holder and a table of members are shown and compared
like tokens, but have parts: a copy of them goes on to their parts.
-/

/-- The plain form of a value. -/
inductive Term where
  | null
  | bool (b : Bool)
  | number (x : Number)
  | decimal (d : Decimal)
  | text (s : String)
  | bytes (b : List UInt8)
  | dateTime (t : DateTime)
  | day (d : Date)
  | objectId (o : ObjectId)
  | special (s : Special)
  | choice (c : Choice)
  | model (m : ModelName)
  | kindNamed (home name : String)
  | operation (name : String)
  | token (shown : String) (tag : Nat)
  | holder (shown : String) (tag : Nat) (held : List Term)
  | table (shown : String) (tag : Nat) (owner : Term)
  | module (name : String)
  | stream (tag : Nat) (items : List Term)
  | shape (tag : Nat) (outline : Term)
  | fault (kind : String) (tag : Nat) (given : List Term)
  | list (items : List Term)
  | tuple (items : List Term)
  | set (items : List Term)
  | dict (entries : List (Term × Term))
  | bundle (entries : List (String × Term))
  | code (text : String) (scope : Term)
  | pointer (collection id database : Term) (others : List (Term × Term))
  | record (kind : String) (fields : List (String × Term))

namespace Term

def ofOption {α : Type} (wrap : α → Term) : Option α → Term
  | none => .null
  | some a => wrap a

abbrev whole (w : Whole) : Term :=
  .number (.whole w)

end Term

/-!
## Shown terms

The text that shows what a term is: texts are quoted, records name their
fields, and containers keep the brackets of their kind.
-/

namespace DateTime

/-- An offset as a count of days, seconds and microseconds, the last two not negative. -/
def offsetShown (offset : Int) : String :=
  let days := offset.fdiv dayLength
  let rest := (offset.fmod dayLength).toNat
  let parts :=
    (if days = 0 then [] else ["days=" ++ toString days]) ++
    (if rest / 1000000 = 0 then [] else ["seconds=" ++ toString (rest / 1000000)]) ++
    (if rest % 1000000 = 0 then [] else ["microseconds=" ++ toString (rest % 1000000)])
  "datetime.timedelta(" ++ ", ".intercalate parts ++ ")"

/-- The parts of a date-time; seconds and microseconds only when needed. -/
def shown (t : DateTime) : String :=
  let base := [t.date.year, t.date.month, t.date.day, t.hour, t.minute].map toString
  let small :=
    if t.microsecond ≠ 0 then [toString t.second, toString t.microsecond]
    else if t.second ≠ 0 then [toString t.second]
    else []
  let zone := match t.offset with
    | none => []
    | some 0 => ["tzinfo=datetime.timezone.utc"]
    | some offset => ["tzinfo=datetime.timezone(" ++ offsetShown offset ++ ")"]
  "datetime.datetime(" ++ ", ".intercalate (base ++ small ++ zone) ++ ")"

end DateTime

def Date.shown (d : Date) : String :=
  "datetime.date(" ++ ", ".intercalate ([d.year, d.month, d.day].map toString) ++ ")"

def Tick.shown : Tick → String
  | .whole w => w.text
  | .flag b => if b then "True" else "False"

def Pattern.shown : Pattern → String
  | .text s => Text.quoted s
  | .bytes b => Text.quotedBytes b

namespace Special

/-- The names of the flags of a regular expression, in the order in which they show. -/
def flagNames : List (Nat × String) :=
  [(2, "IGNORECASE"), (4, "LOCALE"), (32, "UNICODE"), (8, "MULTILINE"), (16, "DOTALL"),
    (64, "VERBOSE")]

/-- How the flags of a regular expression show: by their names, or as zero. -/
def flagsShown (flags : Nat) : String :=
  if flags = 0 then "0"
  else
    "|".intercalate (flagNames.filterMap (fun flag =>
      if flags / flag.1 % 2 = 1 then some ("re." ++ flag.2) else none))

end Special

/-- How a value shows that only stored documents have. -/
def Special.shown : Special → String
  | .decimal128 d => "Decimal128('" ++ d.text128 ++ "')"
  | .binary bytes subtype =>
    if subtype = 8 then "<Binary(REDACTED, 8)>"
    else "Binary(" ++ Text.quotedBytes bytes ++ ", " ++ toString subtype ++ ")"
  | .timestamp time increment => "Timestamp(" ++ time.shown ++ ", " ++ increment.shown ++ ")"
  | .regex pattern flags => "Regex(" ++ pattern.shown ++ ", " ++ flagsShown flags ++ ")"
  | .minKey => "MinKey()"
  | .maxKey => "MaxKey()"

namespace Choice

def text (c : Choice) : String :=
  c.enumeration ++ "." ++ c.name

/-- The value of a member as it shows: its word, or its number for relations. -/
def valueShown : Choice → String
  | .order o => Text.quoted o.word
  | .count c => Text.quoted c.word
  | .relation r => toString r.number

def shown (c : Choice) : String :=
  "<" ++ c.text ++ ": " ++ c.valueShown ++ ">"

end Choice

def ModelName.shown (m : ModelName) : String :=
  "<class '" ++ m.home ++ "." ++ m.name ++ "'>"

/-- How a kind shows: an enumeration by its name alone, another one with the
module that defines it, if that is known. -/
def Kind.shown (home name : String) : String :=
  if (Choice.membersOf name).isEmpty then
    "<class '" ++ (if home = "" then "" else home ++ ".") ++ name ++ "'>"
  else "<enum '" ++ name ++ "'>"

namespace Term

mutual

def shown : Term → String
  | .null => "None"
  | .bool b => if b then "True" else "False"
  | .number x => x.shown
  | .decimal d => "Decimal('" ++ d.text ++ "')"
  | .text s => Text.quoted s
  | .bytes b => Text.quotedBytes b
  | .dateTime t => t.shown
  | .day d => d.shown
  | .objectId o => "ObjectId('" ++ o.hex ++ "')"
  | .special s => s.shown
  | .choice c => c.shown
  | .model m => m.shown
  | .kindNamed home name => Kind.shown home name
  | .operation name => "<function " ++ name ++ ">"
  | .token shownAs _ => shownAs
  | .holder shownAs .. => shownAs
  | .table shownAs .. => shownAs
  | .module name => "<module " ++ Text.quoted name ++ ">"
  | .stream .. => "<generator object>"
  | .shape .. => "Shape()"
  | .fault kind _ given => kind ++ "(" ++ ", ".intercalate (shownAll given) ++ ")"
  | .list items => "[" ++ ", ".intercalate (shownAll items) ++ "]"
  | .tuple items =>
    match shownAll items with
    | [only] => "(" ++ only ++ ",)"
    | several => "(" ++ ", ".intercalate several ++ ")"
  | .set items =>
    match shownAll items with
    | [] => "frozenset()"
    | several => "frozenset(\x7b" ++ ", ".intercalate several ++ "\x7d)"
  | .dict entries => "\x7b" ++ ", ".intercalate (shownEntries entries) ++ "\x7d"
  | .bundle entries => "namespace(" ++ ", ".intercalate (shownFields entries) ++ ")"
  | .code s scope => "Code(" ++ Text.quoted s ++ ", " ++ shown scope ++ ")"
  | .pointer collection id database others =>
    let name := match database with
      | .null => []
      | database => [shown database]
    "DBRef(" ++ ", ".intercalate (shown collection :: shown id :: (name ++ shownExtras others)) ++
      ")"
  | .record kind fields => kind ++ "(" ++ ", ".intercalate (shownFields fields) ++ ")"

def shownAll : List Term → List String
  | [] => []
  | t :: rest => shown t :: shownAll rest

def shownEntries : List (Term × Term) → List String
  | [] => []
  | (key, t) :: rest => (shown key ++ ": " ++ shown t) :: shownEntries rest

/-- The texts of further entries of a pointer; keys that are texts are not quoted. -/
def shownExtras : List (Term × Term) → List String
  | [] => []
  | (.text key, t) :: rest => (key ++ "=" ++ shown t) :: shownExtras rest
  | (key, t) :: rest => (shown key ++ "=" ++ shown t) :: shownExtras rest

def shownFields : List (String × Term) → List String
  | [] => []
  | (name, t) :: rest => (name ++ "=" ++ shown t) :: shownFields rest

end

mutual

/-- Whether a term can be shown: the host refuses to write an integer of too many digits. -/
def isWritable : Term → Bool
  | .number x => x.isWritable
  | .special (.timestamp time increment) => digitsFit time.value && digitsFit increment.value
  | .holder _ _ held => areWritable held
  | .fault _ _ given => areWritable given
  | .list items => areWritable items
  | .tuple items => areWritable items
  | .set items => areWritable items
  | .dict entries => areWritableEntries entries
  | .bundle entries => areWritableFields entries
  | .code _ scope => isWritable scope
  | .pointer collection id database others =>
    isWritable collection && isWritable id && isWritable database && areWritableEntries others
  | .record _ fields => areWritableFields fields
  | _ => true

def areWritable : List Term → Bool
  | [] => true
  | t :: rest => isWritable t && areWritable rest

def areWritableEntries : List (Term × Term) → Bool
  | [] => true
  | (key, t) :: rest => isWritable key && isWritable t && areWritableEntries rest

def areWritableFields : List (String × Term) → Bool
  | [] => true
  | (_, t) :: rest => isWritable t && areWritableFields rest

end

end Term

/-!
## Words

Wherever a definition holds a text it may also hold code: a text that is to be
run, with the scope in which its names are looked up.
-/

/-- A text, or code when it has a scope; a null scope is that of code without one. -/
structure Words where
  text : String
  scope : Option Term

namespace Words

def plain (text : String) : Words :=
  ⟨text, none⟩

/-- A text stands for itself where words are expected. -/
instance : Coe String Words :=
  ⟨plain⟩

def isCode (w : Words) : Bool :=
  w.scope.isSome

def toTerm : Words → Term
  | ⟨text, none⟩ => .text text
  | ⟨text, some scope⟩ => .code text scope

def ofTerm? : Term → Option Words
  | .text text => some (plain text)
  | .code text scope => some ⟨text, some scope⟩
  | _ => none

/-- Words are read back from their term. -/
theorem ofTerm?_toTerm (w : Words) : ofTerm? w.toTerm = some w := by
  rcases w with ⟨text, _ | scope⟩ <;> rfl

end Words

end SearchQuery
