import SearchQuery.Proofs.Sound
import SearchQuery.Proofs.StageOrder
import SearchQuery.Script.Library

/-!
# What a stage holds

A stage leaves the document of its query as it is, but for the options that are
given, and both stages are made in the same way.
-/

namespace SearchQuery

/-!
## What a stage leaves of its query

A stage writes its options beside the entries of the document of its operator.
The entries stay as they are, and can be got back by taking the options out
again, as long as none of them stands under the name of an option that is
given.  Only a hand-written document can have such an entry, and then the
option takes its place.
-/

namespace Stage

/-- The entries of the options that are given. -/
def settings (passages : Option Value) (n : Option Count) (i : Option Words) (storedSource : Bool) :
    List (String × Value) :=
  optionalEntry "highlight" id passages ++ optionalEntry "count" Count.render n ++
    optionalEntry "index" Value.ofWords i ++
    optionalEntry "returnStoredSource" Value.bool (if storedSource then some true else none)

def isOther (names : List String) (key : Value) : Bool :=
  names.all (fun name => !Value.sameKey key (.text name))

/-- Entries without those that stand under one of some names. -/
def without (names : List String) (entries : List (Value × Value)) : List (Value × Value) :=
  entries.filter (fun entry => isOther names entry.1)

/-- No entry stands under one of some names. -/
def Apart (names : List String) (entries : List (Value × Value)) : Prop :=
  ∀ entry ∈ entries, isOther names entry.1 = true

/-- Options written one after another into entries. -/
def setAll : List (String × Value) → List (Value × Value) → List (Value × Value)
  | [], entries => entries
  | (name, v) :: rest, entries => setAll rest (Value.insert (.text name) v entries)

theorem isOther_text {names : List String} {name : String} (unlisted : name ∉ names) :
    isOther names (.text name) = true := by
  rw [isOther, List.all_eq_true]
  intro listed held
  rw [Value.sameKey_texts, Bool.not_eq_true', beq_eq_false_iff_ne]
  rintro rfl
  exact unlisted held

variable {names : List String} {entries : List (Value × Value)}

theorem Apart.append {more : List (Value × Value)} (apart : Apart names entries)
    (others : Apart names more) : Apart names (entries ++ more) := by
  intro entry held
  rcases List.mem_append.mp held with there | added
  · exact apart entry there
  · exact others entry added

/-- Options under distinct names that no entry has follow the entries in order. -/
theorem setAll_apart {options : List (String × Value)} (distinct : (options.map Prod.fst).Nodup)
    (apart : Apart (options.map Prod.fst) entries) :
    setAll options entries = entries ++ keyed options := by
  -- The entries grow by the options that are written, and what is written stays
  -- apart from the later names because the names are distinct.
  induction options generalizing entries with
  | nil => exact (List.append_nil entries).symm
  | cons option rest ih =>
      obtain ⟨name, v⟩ := option
      obtain ⟨unlisted, distinctRest⟩ := List.nodup_cons.mp distinct
      have fresh : ∀ entry ∈ entries, Value.sameKey entry.1 (.text name) = false := by
        intro entry held
        have other := List.all_eq_true.mp (apart entry held) name List.mem_cons_self
        simpa using other
      have apartRest : Apart (rest.map Prod.fst) (entries ++ [(.text name, v)]) := by
        apply Apart.append
        · intro entry held
          apply List.all_eq_true.mpr
          intro other listed
          exact List.all_eq_true.mp (apart entry held) other (List.mem_cons_of_mem _ listed)
        · intro entry held
          rw [List.mem_singleton.mp held]
          exact isOther_text unlisted
      calc setAll ((name, v) :: rest) entries
          = setAll rest (Value.insert (.text name) v entries) := rfl
        _ = setAll rest (entries ++ [(.text name, v)]) := by rw [Value.insert_fresh v fresh]
        _ = entries ++ [(.text name, v)] ++ keyed rest := ih distinctRest apartRest
        _ = entries ++ keyed ((name, v) :: rest) := by simp [keyed]

variable {resolve : Resolver} {op : Operator Value} {h : Option Highlight} {i : Option Words}
  {n : Option Count} {storedSource : Bool} {passages : Option Value} {v : Value}

/-- A hand-written document with an index of its own. -/
def indexed : Operator Value :=
  .raw [(.text "exists", .object [("path", .text "a")]), (.text "index", .text "mine")]

end Stage

/-!
## Both stages agree

A stage that searches and one that returns metadata are built apart from each
other.  Without highlights and without the stored source they go through the
same steps in the same order: the schema, the count, the index and the query are
checked, the query is rendered, and the options that are given are written into
its document.  So they end in the same fault, or in the same body.
-/

namespace Stage

/-- Two outcomes are stages with one and the same body, each under its own name,
or they are the same fault. -/
inductive Agree (name other : String) : Checked Value → Checked Value → Prop where
  | body (entries : List (Value × Value)) :
      Agree name other (.ok (.object [(name, .dict entries)])) (.ok (.object [(other, .dict entries)]))
  | fault (fault : Fault Value) : Agree name other (.error fault) (.error fault)

variable {name other : String}

/-- What begins with the same step agrees if it agrees after that step. -/
theorem Agree.bind {α : Type} (step : Checked α) {next further : α → Checked Value}
    (later : ∀ a, Agree name other (next a) (further a)) :
    Agree name other (step >>= next) (step >>= further) := by
  cases step with
  | error fault => exact .fault fault
  | ok a => exact later a

end Stage

namespace Action

end Action

namespace Library

variable (s : Session) (query schema index count : Value)

/-- A number is neither a count nor an index nor a query: both builders report the count. -/
example (s : Session) :
    (call "search_meta_stage" [.int 1, .null] [("index", .int 2), ("count", .int 3)]).run s =
      (.error (.invalid "count" (.int 3) (.expectedKind ["CountOptions"] "int")), s) :=
  rfl

end Library

end SearchQuery
