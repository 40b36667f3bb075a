import SearchQuery.Proofs.Grammar
import SearchQuery.Proofs.NumericDomains

/-!
# What documents hold

A document is handed to the server, or printed, as it is: its containers are
lists and dictionaries keyed by texts, and its leaves are texts, integers,
doubles, date-times and identifiers, with truth values only in three places.
One kind of number that definitions take in can be neither stored nor printed,
an exact fraction.  So a document can be stored, and printed, exactly when
none of the numbers that are written into it is one.
-/

namespace SearchQuery

/-- A number is an exact fraction. -/
def Number.IsRatio : Number → Prop
  | .ratio _ => True
  | _ => False

namespace Value

mutual

/-- What a predicate says of every leaf of a document and the two keys above
it; the keys are texts, and a list starts without keys. -/
def Each (P : String → String → Value → Prop) (outer inner : String) : Value → Prop
  | .list items => EachItem P items
  | .dict entries => EachEntry P inner entries
  | v => P outer inner v

/-- What a predicate says of the leaves of several documents. -/
def EachItem (P : String → String → Value → Prop) : List Value → Prop
  | [] => True
  | v :: rest => Each P "" "" v ∧ EachItem P rest

/-- What a predicate says of the leaves of entries under a key. -/
def EachEntry (P : String → String → Value → Prop) (outer : String) :
    List (Value × Value) → Prop
  | [] => True
  | (key, v) :: rest => (∃ name, key = .text name ∧ Each P outer name v) ∧ EachEntry P outer rest

end

/-- A value may stand in a stored document under two keys: truth values only as
what is matched exactly, and as two settings. -/
def StoredAt (outer inner : String) : Value → Prop
  | .text _ => True
  | .node (.code ..) => True
  | .number x => ¬ x.IsRatio
  | .dateTime _ => True
  | .objectId _ => True
  | .bool _ =>
    (outer = "equals" ∧ inner = "value") ∨ inner = "allowAnalyzedField" ∨ inner = "inOrder"
  | _ => False

/-- A document can be stored as it is. -/
def Stored (v : Value) : Prop :=
  v.Each StoredAt "" ""

/-- A value has a JSON document. -/
def Prints (v : Value) : Prop :=
  ∃ json, ExtendedJson.ofTerm v.toTerm = .ok json

mutual

/-- Coordinates are lists or tuples of coordinates, down to integers and doubles. -/
def Nested : Value → Prop
  | .number x => ¬ x.IsRatio
  | .list items => AllNested items
  | .tuple items => AllNested items
  | _ => False

/-- All of several values are nested coordinates. -/
def AllNested : List Value → Prop
  | [] => True
  | v :: rest => Nested v ∧ AllNested rest

end

end Value

/-- A geometry is given with nested lists or tuples of integers and doubles for its coordinates. -/
def Geometry.Plotted (g : Geometry Value) : Prop :=
  ∀ argument entries v, Geometry.description argument g.given = .ok entries →
    Value.lookup "coordinates" entries = some v → v.Nested

namespace Demand

/-- A geometry that is asked for was made from what it keeps, and is plotted. -/
def Mapped : Demand → Prop
  | .geometry argument allowed g => Geometry.build allowed argument g.given = .ok g ∧ g.Plotted
  | _ => True

/-- Every geometry among several demands was made from what it keeps, and is plotted. -/
def AllMapped (demands : List Demand) : Prop :=
  ∀ demand ∈ demands, demand.Mapped

variable {demand : Demand} {first second : List Demand}

@[simp]
theorem allMapped_cons : AllMapped (demand :: first) ↔ demand.Mapped ∧ AllMapped first :=
  List.forall_mem_cons

@[simp]
theorem allMapped_append : AllMapped (first ++ second) ↔ AllMapped first ∧ AllMapped second :=
  List.forall_mem_append

end Demand

/-- A setting is written into documents, unless it is a fallback of zero. -/
def Setting.Written (s : Setting) : Prop :=
  ¬ (s.domain = .fallback ∧ s.number.isZero = true)

/-- What is said of every number that is written into documents. -/
def Setting.AllWritten (Q : Number → Prop) (settings : List Setting) : Prop :=
  ∀ s ∈ settings, s.Written → Q s.number

/-- No number that an operator writes into documents is a fraction. -/
def Operator.FractionFree (op : Operator Value) : Prop :=
  Setting.AllWritten (fun x => ¬ x.IsRatio) op.settings

/-- A predicate on leaves that holds of what definitions put into documents,
and of a number as another predicate says. -/
structure Sieve (Q : Number → Prop) (P : String → String → Value → Prop) : Prop where
  plain : ∀ x, ¬ x.IsRatio → Q x
  text : ∀ outer inner s, P outer inner (.text s)
  code : ∀ outer inner s scope, P outer inner (.node (.code s scope))
  date : ∀ outer inner t, P outer inner (.dateTime t)
  identifier : ∀ outer inner o, P outer inner (.objectId o)
  matched : ∀ b, P "equals" "value" (.bool b)
  analyzed : ∀ outer b, P outer "allowAnalyzedField" (.bool b)
  ordered : ∀ outer b, P outer "inOrder" (.bool b)
  number : ∀ outer inner x, P outer inner (.number x) ↔ Q x

namespace Setting

variable {Q : Number → Prop} {s : Setting} {first second : List Setting}

@[simp]
theorem allWritten_nil : AllWritten Q [] := by
  intro s held
  cases held

@[simp]
theorem allWritten_cons :
    AllWritten Q (s :: first) ↔ (s.Written → Q s.number) ∧ AllWritten Q first :=
  List.forall_mem_cons

@[simp]
theorem allWritten_append :
    AllWritten Q (first ++ second) ↔ AllWritten Q first ∧ AllWritten Q second :=
  List.forall_mem_append

/-- Every setting but a fallback is written. -/
theorem written_of_ne (domain : s.domain ≠ .fallback) : s.Written := by
  rintro ⟨same, -⟩
  exact domain same

/-- A fallback is written exactly when it is not zero. -/
theorem written_fallback {x : Number} : (⟨.fallback, x⟩ : Setting).Written ↔ x.isZero = false := by
  simp [Written]

end Setting

namespace Value

variable {P R S : String → String → Value → Prop} {outer inner : String}

/-- What is said of every leaf under entries keyed by texts. -/
def EachNamed (P : String → String → Value → Prop) (outer : String)
    (entries : List (String × Value)) : Prop :=
  ∀ entry ∈ entries, Each P outer entry.1 entry.2

@[simp]
theorem eachNamed_nil : EachNamed P outer [] := by
  intro entry held
  cases held

@[simp]
theorem eachNamed_cons {name : String} {v : Value} {rest : List (String × Value)} :
    EachNamed P outer ((name, v) :: rest) ↔ Each P outer name v ∧ EachNamed P outer rest :=
  List.forall_mem_cons

@[simp]
theorem eachNamed_append {first second : List (String × Value)} :
    EachNamed P outer (first ++ second) ↔ EachNamed P outer first ∧ EachNamed P outer second :=
  List.forall_mem_append

@[simp]
theorem each_object {entries : List (String × Value)} :
    Each P outer inner (object entries) ↔ EachNamed P inner entries := by
  rw [object, Each]
  induction entries with
  | nil => simp [EachEntry]
  | cons entry rest ih =>
      obtain ⟨name, v⟩ := entry
      simp [EachEntry, ih]

theorem eachItem_iff {items : List Value} : EachItem P items ↔ ∀ v ∈ items, Each P "" "" v := by
  induction items with
  | nil => simp [EachItem]
  | cons v rest ih => simp [EachItem, ih]

@[simp]
theorem each_list {items : List Value} :
    Each P outer inner (.list items) ↔ ∀ v ∈ items, Each P "" "" v := by
  rw [Each, eachItem_iff]

mutual

/-- What follows from two things said of every leaf is said of every leaf. -/
theorem Each.both (imply : ∀ outer inner v, P outer inner v → R outer inner v → S outer inner v)
    {outer inner : String} {v : Value} (first : Each P outer inner v)
    (second : Each R outer inner v) : Each S outer inner v := by
  cases v with
  | list items =>
      rw [Each] at first second ⊢
      exact EachItem.both imply first second
  | dict entries =>
      rw [Each] at first second ⊢
      exact EachEntry.both imply first second
  | _ =>
      simp only [Each] at first second ⊢
      exact imply _ _ _ first second

theorem EachItem.both (imply : ∀ outer inner v, P outer inner v → R outer inner v → S outer inner v)
    {items : List Value} (first : EachItem P items) (second : EachItem R items) :
    EachItem S items := by
  cases items with
  | nil => trivial
  | cons v rest =>
      rw [EachItem] at first second ⊢
      exact ⟨Each.both imply first.1 second.1, EachItem.both imply first.2 second.2⟩

theorem EachEntry.both
    (imply : ∀ outer inner v, P outer inner v → R outer inner v → S outer inner v)
    {outer : String} {entries : List (Value × Value)} (first : EachEntry P outer entries)
    (second : EachEntry R outer entries) : EachEntry S outer entries := by
  cases entries with
  | nil => trivial
  | cons entry rest =>
      obtain ⟨key, v⟩ := entry
      rw [EachEntry] at first second ⊢
      obtain ⟨⟨name, rfl, one⟩, others⟩ := first
      obtain ⟨⟨same, equal, two⟩, more⟩ := second
      cases equal
      exact ⟨⟨name, rfl, Each.both imply one two⟩, EachEntry.both imply others more⟩

end

/-- A step that goes on whatever it finds gives a result when it finds something. -/
theorem exists_bind_iff {ε α β : Type} {first : Except ε α} {next : α → Except ε β}
    {P : Prop} (later : ∀ a, first = .ok a → ((∃ b, next a = .ok b) ↔ P)) :
    (∃ b, first >>= next = .ok b) ↔ (∃ a, first = .ok a) ∧ P := by
  constructor
  · rintro ⟨b, made⟩
    obtain ⟨a, found, more⟩ := Outcome.bind_eq_ok.mp made
    exact ⟨⟨a, found⟩, (later a found).mp ⟨b, more⟩⟩
  · rintro ⟨⟨a, found⟩, holds⟩
    obtain ⟨b, more⟩ := (later a found).mpr holds
    exact ⟨b, Outcome.bind_eq_ok.mpr ⟨a, found, more⟩⟩

theorem exists_pure {ε α : Type} (a : α) : (∃ b, (pure a : Except ε α) = .ok b) ↔ True :=
  ⟨fun _ => trivial, fun _ => ⟨a, rfl⟩⟩

mutual

/-- A document prints exactly when every leaf does, as long as its keys are texts. -/
theorem prints_iff {outer inner : String} {v : Value}
    (keyed : Each (fun _ _ _ => True) outer inner v) :
    v.Prints ↔ Each (fun _ _ leaf => leaf.Prints) outer inner v := by
  cases v with
  | list items =>
      rw [Each] at keyed ⊢
      rw [← printItems_iff keyed]
      unfold Prints
      rw [toTerm, ExtendedJson.ofTerm,
        exists_bind_iff (fun json _ => exists_pure (Json.array json)), and_true]
  | dict entries =>
      rw [Each] at keyed ⊢
      rw [← printEntries_iff keyed]
      unfold Prints
      rw [toTerm, ExtendedJson.ofTerm,
        exists_bind_iff (fun json _ => exists_pure (Json.object json)), and_true]
  | _ => simp only [Each]

theorem printItems_iff {items : List Value} (keyed : EachItem (fun _ _ _ => True) items) :
    (∃ json, ExtendedJson.ofItems (terms items) = .ok json) ↔
      EachItem (fun _ _ leaf => leaf.Prints) items := by
  cases items with
  | nil => simp [terms, ExtendedJson.ofItems, EachItem]
  | cons v rest =>
      rw [EachItem] at keyed ⊢
      rw [← prints_iff keyed.1, ← printItems_iff keyed.2, terms, ExtendedJson.ofItems]
      apply exists_bind_iff
      intro json _
      rw [exists_bind_iff (fun others _ => exists_pure (json :: others)), and_true]

theorem printEntries_iff {outer : String} {entries : List (Value × Value)}
    (keyed : EachEntry (fun _ _ _ => True) outer entries) :
    (∃ json, ExtendedJson.ofEntries (entryTerms entries) = .ok json) ↔
      EachEntry (fun _ _ leaf => leaf.Prints) outer entries := by
  cases entries with
  | nil => simp [entryTerms, ExtendedJson.ofEntries, EachEntry]
  | cons entry rest =>
      obtain ⟨key, v⟩ := entry
      rw [EachEntry] at keyed
      obtain ⟨⟨name, rfl, one⟩, others⟩ := keyed
      have named : ExtendedJson.keyText (toTerm (.text name)) = .ok name := by
        simp only [toTerm, ExtendedJson.keyText]
      have left :
          (∃ same, text name = .text same ∧ Each (fun _ _ leaf => leaf.Prints) outer same v) ↔
          v.Prints := by
        rw [prints_iff one]
        constructor
        · rintro ⟨same, equal, each⟩
          cases equal
          exact each
        · intro each
          exact ⟨name, rfl, each⟩
      rw [EachEntry, left, ← printEntries_iff others, entryTerms, ExtendedJson.ofEntries]
      apply exists_bind_iff
      intro json _
      simp only [named]
      apply (exists_bind_iff (fun more _ => exists_pure ((name, json) :: more))).trans
      rw [and_true]

end

end Value

open Demand (AllMapped allMapped_cons allMapped_append)
open Setting (AllWritten)
open Value (Each EachNamed)

section Documents

variable {Q : Number → Prop} {P : String → String → Value → Prop} {resolve : Resolver}
  {outer inner : String} {v : Value}

theorem Sieve.whole (sieve : Sieve Q P) (w : Whole) : P outer inner (.whole w) :=
  (sieve.number _ _ _).mpr (sieve.plain _ id)

theorem each_ofWords (sieve : Sieve Q P) (w : Words) : Each P outer inner (.ofWords w) := by
  rcases w with ⟨text, _ | scope⟩
  · simpa only [Value.ofWords, Each] using sieve.text _ _ _
  · simpa only [Value.ofWords, Each] using sieve.code _ _ _ _

theorem each_text (sieve : Sieve Q P) (s : String) : Each P outer inner (.text s) := by
  simpa only [Each] using sieve.text _ _ _

theorem each_whole (sieve : Sieve Q P) (w : Whole) : Each P outer inner (.whole w) := by
  simpa only [Each] using sieve.whole w

theorem each_number (sieve : Sieve Q P) (x : Number) : Each P outer inner (.number x) ↔ Q x := by
  simpa only [Each] using sieve.number _ _ _

theorem each_query (sieve : Sieve Q P) (q : Query) : Each P outer inner q.render := by
  cases q with
  | single text => exact each_ofWords sieve text
  | many texts =>
      rw [Query.render, Value.each_list]
      intro v held
      obtain ⟨text, -, rfl⟩ := List.mem_map.mp held
      exact each_ofWords sieve text

theorem each_names (sieve : Sieve Q P) {fields : List Field} {names : List Value}
    (written : Path.resolveAll resolve fields = .ok names) : ∀ v ∈ names, Each P "" "" v := by
  induction fields generalizing names with
  | nil =>
      cases written
      intro v held
      cases held
  | cons field rest ih =>
      obtain ⟨name, -, more⟩ := Outcome.bind_eq_ok.mp written
      obtain ⟨others, resolved, made⟩ := Outcome.bind_eq_ok.mp more
      cases made
      rw [List.forall_mem_cons]
      exact ⟨each_ofWords sieve name, ih resolved⟩

theorem each_path (sieve : Sieve Q P) {p : Path} (written : p.render resolve = .ok v) :
    Each P outer inner v := by
  cases p with
  | single field =>
      obtain ⟨name, -, made⟩ := Outcome.bind_eq_ok.mp written
      cases made
      exact each_ofWords sieve name
  | many fields =>
      obtain ⟨names, found, made⟩ := Outcome.bind_eq_ok.mp written
      cases made
      rw [Value.each_list]
      exact each_names sieve found
  | analyzed field analyzer =>
      obtain ⟨name, -, made⟩ := Outcome.bind_eq_ok.mp written
      cases made
      simp only [Value.each_object, Value.eachNamed_cons]
      exact ⟨each_ofWords sieve name, each_ofWords sieve analyzer, Value.eachNamed_nil⟩
  | wildcard pattern =>
      cases written
      simp only [Value.each_object, Value.eachNamed_cons]
      exact ⟨each_ofWords sieve pattern, Value.eachNamed_nil⟩

/-- Entries that are there when a value is given hold what is said of that value. -/
theorem eachNamed_optional {α : Type} {wrap : α → Value} (key : String) (given : Option α) :
    EachNamed P outer (optionalEntry key wrap given) ↔ ∀ a ∈ given, Each P outer key (wrap a) := by
  cases given <;> simp [optionalEntry]

theorem each_fuzzy (sieve : Sieve Q P) (f : Fuzzy) : Each P outer inner f.render := by
  simp only [Fuzzy.render, Value.each_object, Value.eachNamed_append, eachNamed_optional]
  exact ⟨⟨fun w _ => each_whole sieve w, fun w _ => each_whole sieve w⟩,
    fun w _ => each_whole sieve w⟩

/-- A setting that is no fallback is always written. -/
theorem written_iff (x : Number) {d : Domain} (domain : d ≠ .fallback) :
    ((⟨d, x⟩ : Setting).Written → Q x) ↔ Q x :=
  ⟨fun holds => holds (Setting.written_of_ne domain), fun holds _ => holds⟩

theorem allWritten_whole (sieve : Sieve Q P) (w : Whole) {rest : List Setting} :
    AllWritten Q (⟨.any, .whole w⟩ :: rest) ↔ AllWritten Q rest := by
  rw [Setting.allWritten_cons]
  exact and_iff_right (fun _ => sieve.plain _ id)

theorem allWritten_wholes (sieve : Sieve Q P) (w : Option Whole) :
    AllWritten Q (wholeSettings w) := by
  intro s held _
  obtain ⟨n, -, rfl⟩ := List.mem_map.mp held
  exact sieve.plain _ id

namespace ScoreFunction

mutual

/-- The document of an expression holds what its settings hold. -/
theorem render_each (sieve : Sieve Q P) {outer inner : String} {f : ScoreFunction} {v : Value}
    (written : f.render resolve = .ok v) : Each P outer inner v ↔ AllWritten Q f.settings := by
  cases f with
  | path p undefined =>
      obtain ⟨name, found, made⟩ := Outcome.bind_eq_ok.mp written
      cases zero : undefined.isZero with
      | true =>
          simp only [zero] at made
          cases made
          simp [settings, Setting.written_fallback, zero, each_path sieve found]
      | false =>
          simp only [zero] at made
          cases made
          simp [settings, Setting.written_fallback, zero, each_path sieve found, each_number sieve]
  | relevance =>
      cases written
      simp [settings, each_text sieve]
  | constant value =>
      cases written
      simp [settings, each_number sieve, written_iff]
  | combined way children =>
      obtain ⟨documents, found, made⟩ := Outcome.bind_eq_ok.mp written
      cases made
      simpa [settings] using renderAll_each sieve found
  | gauss p origin scale decay offset =>
      obtain ⟨name, found, made⟩ := Outcome.bind_eq_ok.mp written
      cases made
      cases decay <;> cases offset <;>
        simp [settings, each_path sieve found, each_number sieve, written_iff, eachNamed_optional]
  | transformed way child =>
      obtain ⟨document, found, made⟩ := Outcome.bind_eq_ok.mp written
      cases made
      simpa [settings] using render_each sieve found

/-- The documents of several expressions hold what their settings hold. -/
theorem renderAll_each (sieve : Sieve Q P) {children : List ScoreFunction} {documents : List Value}
    (written : renderAll resolve children = .ok documents) :
    (∀ v ∈ documents, Each P "" "" v) ↔ AllWritten Q (allSettings children) := by
  cases children with
  | nil =>
      cases written
      simp [allSettings]
  | cons child rest =>
      obtain ⟨document, found, more⟩ := Outcome.bind_eq_ok.mp written
      obtain ⟨others, foundAll, made⟩ := Outcome.bind_eq_ok.mp more
      cases made
      rw [allSettings, Setting.allWritten_append, List.forall_mem_cons, render_each sieve found,
        renderAll_each sieve foundAll]

end

end ScoreFunction

namespace Score

theorem render_each (sieve : Sieve Q P) {s : Score} (written : s.render resolve = .ok v) :
    Each P outer inner v ↔ AllWritten Q s.settings := by
  cases s with
  | boost value =>
      cases written
      simp [settings, each_number sieve, written_iff]
  | boostPath p undefined =>
      obtain ⟨name, found, made⟩ := Outcome.bind_eq_ok.mp written
      cases made
      cases zero : undefined.isZero with
      | true => simp [settings, Setting.written_fallback, zero, each_path sieve found]
      | false =>
          simp [settings, Setting.written_fallback, zero, each_path sieve found, each_number sieve]
  | constant value =>
      cases written
      simp [settings, each_number sieve, written_iff]
  | function expression =>
      obtain ⟨document, found, made⟩ := Outcome.bind_eq_ok.mp written
      cases made
      simpa [settings] using expression.render_each sieve found

/-- The score entry of a body holds what the settings of the score hold. -/
theorem entries_each (sieve : Sieve Q P) {score : Option Score} {last : List (String × Value)}
    (written : entries resolve score = .ok last) :
    EachNamed P outer last ↔ AllWritten Q (entrySettings score) := by
  cases score with
  | none =>
      cases written
      simp [entrySettings]
  | some score =>
      obtain ⟨document, found, made⟩ := Outcome.bind_eq_ok.mp written
      cases made
      simp [entrySettings, render_each sieve found]

end Score

namespace Span

mutual

/-- The document of a span holds only what documents may hold. -/
theorem render_each (sieve : Sieve Q P) {outer inner : String} {s : Span} {v : Value}
    (written : s.render resolve = .ok v) : Each P outer inner v ↔ AllWritten Q s.settings := by
  cases s with
  | term query path =>
      obtain ⟨name, found, made⟩ := Outcome.bind_eq_ok.mp written
      cases made
      simp [settings, each_query sieve, each_path sieve found]
  | first operator endPosition =>
      obtain ⟨document, found, made⟩ := Outcome.bind_eq_ok.mp written
      cases made
      simp [settings, each_whole sieve, allWritten_whole sieve, render_each sieve found]
  | near clauses slop inOrder =>
      obtain ⟨documents, found, made⟩ := Outcome.bind_eq_ok.mp written
      cases made
      have flag : Each P "near" "inOrder" (.bool inOrder) := by
        simpa only [Each] using sieve.ordered _ _
      simp [settings, each_whole sieve, allWritten_whole sieve, renderAll_each sieve found, flag]
  | either clauses =>
      obtain ⟨documents, found, made⟩ := Outcome.bind_eq_ok.mp written
      cases made
      simpa [settings] using renderAll_each sieve found
  | subtract kept removed =>
      obtain ⟨included, found, more⟩ := Outcome.bind_eq_ok.mp written
      obtain ⟨excluded, foundNext, made⟩ := Outcome.bind_eq_ok.mp more
      cases made
      simp [settings, render_each sieve found, render_each sieve foundNext]

/-- The documents of several spans hold what their settings hold. -/
theorem renderAll_each (sieve : Sieve Q P) {clauses : List Span} {documents : List Value}
    (written : renderAll resolve clauses = .ok documents) :
    (∀ v ∈ documents, Each P "" "" v) ↔ AllWritten Q (allSettings clauses) := by
  cases clauses with
  | nil =>
      cases written
      simp [allSettings]
  | cons clause rest =>
      obtain ⟨document, found, more⟩ := Outcome.bind_eq_ok.mp written
      obtain ⟨others, foundAll, made⟩ := Outcome.bind_eq_ok.mp more
      cases made
      rw [allSettings, Setting.allWritten_append, List.forall_mem_cons, render_each sieve found,
        renderAll_each sieve foundAll]

end

end Span

theorem each_date (sieve : Sieve Q P) (t : DateTime) : Each P outer inner (.dateTime t) := by
  simpa only [Each] using sieve.date _ _ _

theorem allWritten_numbers (xs : List Number) :
    AllWritten Q (xs.map (⟨.any, ·⟩)) ↔ ∀ x ∈ xs, Q x := by
  induction xs with
  | nil => simp
  | cons x rest ih => simp [ih, written_iff]

namespace Facet

/-- The document of a facet holds what its settings hold. -/
theorem render_each (sieve : Sieve Q P) {f : Facet} (written : f.render resolve = .ok v) :
    Each P outer inner v ↔ AllWritten Q f.settings := by
  cases f with
  | string name path buckets =>
      obtain ⟨shown, found, made⟩ := Outcome.bind_eq_ok.mp written
      cases made
      split <;>
        simp [settings, each_text sieve, each_path sieve found, each_whole sieve,
          allWritten_whole sieve]
  | number name path boundaries outside =>
      obtain ⟨shown, found, made⟩ := Outcome.bind_eq_ok.mp written
      cases made
      simp [settings, each_text sieve, each_path sieve found, each_number sieve, each_ofWords sieve,
        eachNamed_optional, allWritten_numbers]
  | date name path boundaries outside =>
      obtain ⟨shown, found, made⟩ := Outcome.bind_eq_ok.mp written
      cases made
      simp [settings, each_text sieve, each_path sieve found, each_date sieve, each_ofWords sieve,
        eachNamed_optional]

/-- The documents of several facets hold what their settings hold. -/
theorem renderAll_each (sieve : Sieve Q P) {facets : List Facet}
    {documents : List (String × Value)} (written : renderAll resolve facets = .ok documents) :
    EachNamed P outer documents ↔ AllWritten Q (facets.flatMap settings) := by
  induction facets generalizing documents with
  | nil =>
      cases written
      simp
  | cons facet rest ih =>
      obtain ⟨document, found, more⟩ := Outcome.bind_eq_ok.mp written
      obtain ⟨others, foundAll, made⟩ := Outcome.bind_eq_ok.mp more
      cases made
      rw [Value.eachNamed_cons, render_each sieve found, ih foundAll, List.flatMap_cons,
        Setting.allWritten_append]

end Facet

mutual

/-- Nested coordinates hold only what documents may hold, once their tuples are lists. -/
theorem Value.Nested.each (sieve : Sieve Q P) {outer inner : String} {v : Value}
    (nested : v.Nested) :
    Each P outer inner v.listify := by
  cases v with
  | number x =>
      simp only [Nested] at nested
      rw [listify]
      exact (each_number sieve x).mpr (sieve.plain x nested)
  | list items =>
      simp only [Nested] at nested
      rw [listify, each_list]
      exact AllNested.each sieve nested
  | tuple items =>
      simp only [Nested] at nested
      rw [listify, each_list]
      exact AllNested.each sieve nested
  | _ => simp only [Nested] at nested

theorem Value.AllNested.each (sieve : Sieve Q P) {items : List Value} (nested : AllNested items) :
    ∀ v ∈ listifyAll items, Each P "" "" v := by
  cases items with
  | nil => simp [listifyAll]
  | cons v rest =>
      simp only [AllNested] at nested
      rw [listifyAll, List.forall_mem_cons]
      exact ⟨Value.Nested.each sieve nested.1, AllNested.each sieve nested.2⟩

end

/-- The coordinates of a geometry that was made are those of the description
of what it was made from, with lists for tuples. -/
theorem Geometry.build_coordinates {allowed : List String} {argument : String} {v : Value}
    {g : Geometry Value} (made : Geometry.build allowed argument v = .ok g) :
    ∃ entries w, Geometry.description argument v = .ok entries ∧
      Value.lookup "coordinates" entries = some w ∧ g.coordinates = w.listify := by
  obtain ⟨entries, name, w, described, -, -, located, rfl⟩ := Geometry.build_eq_ok_iff.mp made
  exact ⟨entries, w, described, located, rfl⟩

/-- The document of a plotted geometry holds only what documents may hold. -/
theorem Geometry.render_each (sieve : Sieve Q P) {argument : String} {allowed : List String}
    {g : Geometry Value} (mapped : (Demand.geometry argument allowed g).Mapped)
    (written : g.render argument allowed = .ok v) : Each P outer inner v := by
  obtain ⟨made, plotted⟩ := mapped
  obtain ⟨entries, w, described, found, same⟩ := Geometry.build_coordinates made
  unfold Geometry.render at written
  split at written
  · cases written
  · cases written
    have nested := plotted argument entries w described found
    simp only [Value.each_object, Value.eachNamed_cons, same]
    exact ⟨each_text sieve _, nested.each sieve, Value.eachNamed_nil⟩

/-- The entry of an area holds what its settings hold. -/
theorem Area.entry_each (sieve : Sieve Q P) {a : Area Value} {entry : String × Value}
    (mapped : AllMapped a.demands) (written : a.entry = .ok entry) :
    Each P outer entry.1 entry.2 ↔ AllWritten Q a.settings := by
  cases a with
  | geometry g =>
      obtain ⟨document, found, made⟩ := Outcome.bind_eq_ok.mp written
      cases made
      have each : Each P outer "geometry" document :=
        Geometry.render_each sieve (mapped _ List.mem_cons_self) found
      simp [settings, each]
  | box b =>
      obtain ⟨document, found, made⟩ := Outcome.bind_eq_ok.mp written
      cases made
      obtain ⟨low, foundLow, more⟩ := Outcome.bind_eq_ok.mp found
      obtain ⟨high, foundHigh, made⟩ := Outcome.bind_eq_ok.mp more
      cases made
      simp only [demands, allMapped_cons] at mapped
      have eachLow : Each P "box" "bottomLeft" low := Geometry.render_each sieve mapped.1 foundLow
      have eachHigh : Each P "box" "topRight" high :=
        Geometry.render_each sieve mapped.2.1 foundHigh
      simp [settings, eachLow, eachHigh]
  | circle c =>
      obtain ⟨document, found, made⟩ := Outcome.bind_eq_ok.mp written
      cases made
      obtain ⟨center, foundCenter, made⟩ := Outcome.bind_eq_ok.mp found
      cases made
      simp only [demands, allMapped_cons] at mapped
      have each : Each P "circle" "center" center := Geometry.render_each sieve mapped.1 foundCenter
      simp [settings, each, each_number sieve, written_iff]

theorem Origin.render_each (sieve : Sieve Q P) (o : Origin) :
    Each P outer inner o.render ↔ AllWritten Q o.settings := by
  cases o with
  | number x => simp [render, settings, each_number sieve, written_iff]
  | date t => simp [render, settings, each_date sieve]
  | point p =>
      simp [render, settings, GeoPoint.render, GeoPoint.settings, each_text sieve,
        each_number sieve, written_iff]

theorem each_ofLimit (sieve : Sieve Q P) (limit : Limit) :
    Each P outer inner (.ofLimit limit) ↔ AllWritten Q limit.settings := by
  cases limit with
  | number x => simp [Value.ofLimit, Limit.settings, each_number sieve, written_iff]
  | date t => simp [Value.ofLimit, Limit.settings, each_date sieve]

theorem Bound.lower_each (sieve : Sieve Q P) (bound : Option (Bound Value)) :
    EachNamed P outer (bound.toList.map Bound.lowerEntry) ↔ AllWritten Q (settings bound) := by
  cases bound <;> simp [settings, lowerEntry, each_ofLimit sieve]

theorem Bound.upper_each (sieve : Sieve Q P) (bound : Option (Bound Value)) :
    EachNamed P outer (bound.toList.map Bound.upperEntry) ↔ AllWritten Q (settings bound) := by
  cases bound <;> simp [settings, upperEntry, each_ofLimit sieve]

theorem allWritten_fuzzy (sieve : Sieve Q P) (fuzzy : Option Fuzzy) :
    AllWritten Q (fuzzy.toList.flatMap Fuzzy.settings) := by
  cases fuzzy <;> simp [Fuzzy.settings, allWritten_wholes sieve]

theorem eachNamed_fuzzy (sieve : Sieve Q P) (fuzzy : Option Fuzzy) :
    EachNamed P outer (optionalEntry "fuzzy" Fuzzy.render fuzzy) :=
  (eachNamed_optional _ _).mpr (fun f _ => each_fuzzy sieve f)

theorem eachNamed_positive (sieve : Sieve Q P) (key : String) (w : Whole) :
    EachNamed P outer (positiveEntry key w) := by
  unfold positiveEntry
  split <;> simp [each_whole sieve]

theorem eachNamed_analyzed (sieve : Sieve Q P) (analyzed : Bool) :
    EachNamed P outer (flagEntry "allowAnalyzedField" analyzed) := by
  have flag : Each P outer "allowAnalyzedField" (.bool true) := by
    simpa only [Each] using sieve.analyzed _ _
  cases analyzed <;> simp [flagEntry, flag]

theorem each_ofExact (sieve : Sieve Q P) (e : Exact) : Each P "equals" "value" (.ofExact e) := by
  cases e with
  | flag b => simpa only [Value.ofExact, Each] using sieve.matched b
  | id o => simpa only [Value.ofExact, Each] using sieve.identifier _ _ o

namespace Operator

mutual

/-- The document of an operator holds what its settings hold. -/
theorem render_each (sieve : Sieve Q P) {outer inner : String} {op : Operator Value} {v : Value}
    (free : op.rawFree = true) (mapped : AllMapped op.demands)
    (written : op.render resolve = .ok v) :
    Each P outer inner v ↔ AllWritten Q op.settings := by
  cases op with
  | text query p fuzzy score =>
      obtain ⟨path, found, more⟩ := Outcome.bind_eq_ok.mp written
      obtain ⟨last, foundScore, made⟩ := Outcome.bind_eq_ok.mp more
      cases made
      simp [settings, each_query sieve, each_path sieve found, eachNamed_fuzzy sieve,
        allWritten_fuzzy sieve, Score.entries_each sieve foundScore]
  | phrase query p slop score =>
      obtain ⟨path, found, more⟩ := Outcome.bind_eq_ok.mp written
      obtain ⟨last, foundScore, made⟩ := Outcome.bind_eq_ok.mp more
      cases made
      split <;>
        simp [settings, each_query sieve, each_path sieve found, each_whole sieve,
          allWritten_whole sieve, Score.entries_each sieve foundScore]
  | autocomplete query p order fuzzy score =>
      obtain ⟨path, found, more⟩ := Outcome.bind_eq_ok.mp written
      obtain ⟨last, foundScore, made⟩ := Outcome.bind_eq_ok.mp more
      cases made
      cases order <;>
        simp [settings, each_query sieve, each_path sieve found, each_text sieve,
          eachNamed_fuzzy sieve, allWritten_fuzzy sieve, Score.entries_each sieve foundScore]
  | pattern form query p analyzed score =>
      obtain ⟨path, found, more⟩ := Outcome.bind_eq_ok.mp written
      obtain ⟨last, foundScore, made⟩ := Outcome.bind_eq_ok.mp more
      cases made
      simp [settings, each_query sieve, each_path sieve found, eachNamed_analyzed sieve,
        Score.entries_each sieve foundScore]
  | queryString field query score =>
      obtain ⟨name, found, more⟩ := Outcome.bind_eq_ok.mp written
      obtain ⟨last, foundScore, made⟩ := Outcome.bind_eq_ok.mp more
      cases made
      simp [settings, each_ofWords sieve, Score.entries_each sieve foundScore]
  | equals field value score =>
      obtain ⟨name, found, more⟩ := Outcome.bind_eq_ok.mp written
      obtain ⟨last, foundScore, made⟩ := Outcome.bind_eq_ok.mp more
      cases made
      simp [settings, each_ofWords sieve, each_ofExact sieve, Score.entries_each sieve foundScore]
  | existence field =>
      obtain ⟨name, found, made⟩ := Outcome.bind_eq_ok.mp written
      cases made
      simp [settings, each_ofWords sieve]
  | near p origin pivot score =>
      obtain ⟨path, found, more⟩ := Outcome.bind_eq_ok.mp written
      obtain ⟨last, foundScore, made⟩ := Outcome.bind_eq_ok.mp more
      cases made
      simp [settings, each_path sieve found, each_number sieve, written_iff,
        Origin.render_each sieve, Score.entries_each sieve foundScore]
  | geoWithin p area score =>
      obtain ⟨path, found, more⟩ := Outcome.bind_eq_ok.mp written
      obtain ⟨entry, foundArea, more⟩ := Outcome.bind_eq_ok.mp more
      obtain ⟨last, foundScore, made⟩ := Outcome.bind_eq_ok.mp more
      cases made
      simp only [demands, allMapped_append] at mapped
      have surrounds : Each P "geoWithin" entry.1 entry.2 ↔ AllWritten Q area.settings :=
        Area.entry_each sieve mapped.1.2 foundArea
      obtain ⟨key, w⟩ := entry
      simp [settings, each_path sieve found, surrounds, Score.entries_each sieve foundScore]
  | geoShape p geometry relation score =>
      obtain ⟨path, found, more⟩ := Outcome.bind_eq_ok.mp written
      obtain ⟨document, foundShape, more⟩ := Outcome.bind_eq_ok.mp more
      obtain ⟨last, foundScore, made⟩ := Outcome.bind_eq_ok.mp more
      cases made
      simp only [demands, allMapped_append, allMapped_cons] at mapped
      have drawn : Each P "geoShape" "geometry" document :=
        Geometry.render_each sieve mapped.1.2.1 foundShape
      simp [settings, each_path sieve found, each_text sieve, drawn,
        Score.entries_each sieve foundScore]
  | range form p lower upper score =>
      obtain ⟨path, found, more⟩ := Outcome.bind_eq_ok.mp written
      obtain ⟨last, foundScore, made⟩ := Outcome.bind_eq_ok.mp more
      cases made
      simp [settings, each_path sieve found, Bound.lower_each sieve, Bound.upper_each sieve,
        Score.entries_each sieve foundScore]
  | compound must mustNot should filter minimum score =>
      obtain ⟨first, foundMust, more⟩ := Outcome.bind_eq_ok.mp written
      obtain ⟨second, foundMustNot, more⟩ := Outcome.bind_eq_ok.mp more
      obtain ⟨third, foundShould, more⟩ := Outcome.bind_eq_ok.mp more
      obtain ⟨fourth, foundFilter, more⟩ := Outcome.bind_eq_ok.mp more
      obtain ⟨last, foundScore, made⟩ := Outcome.bind_eq_ok.mp more
      cases made
      simp only [rawFree, Bool.and_eq_true] at free
      obtain ⟨⟨⟨freeMust, freeMustNot⟩, freeShould⟩, freeFilter⟩ := free
      simp only [demands, allMapped_append] at mapped
      obtain ⟨⟨⟨⟨mappedMust, mappedMustNot⟩, mappedShould⟩, mappedFilter⟩, -⟩ := mapped
      simp [settings, renderClauses_each sieve freeMust mappedMust foundMust,
        renderClauses_each sieve freeMustNot mappedMustNot foundMustNot,
        renderClauses_each sieve freeShould mappedShould foundShould,
        renderClauses_each sieve freeFilter mappedFilter foundFilter, eachNamed_positive sieve,
        allWritten_whole sieve, Score.entries_each sieve foundScore]
  | span s =>
      obtain ⟨document, found, made⟩ := Outcome.bind_eq_ok.mp written
      cases made
      simp [settings, s.render_each sieve found]
  | facet operator facets =>
      obtain ⟨document, found, more⟩ := Outcome.bind_eq_ok.mp written
      obtain ⟨documents, foundFacets, made⟩ := Outcome.bind_eq_ok.mp more
      cases made
      simp only [rawFree] at free
      simp only [demands, allMapped_append] at mapped
      simp [settings, render_each sieve free mapped.1 found, Facet.renderAll_each sieve foundFacets]
  | raw entries => cases free

/-- The entry of a list of clauses holds what their settings hold. -/
theorem renderClauses_each (sieve : Sieve Q P) {outer key : String}
    {clauses : Option (List (Operator Value))} {entries : List (String × Value)}
    (free : rawFree.clausesRawFree clauses = true) (mapped : AllMapped (clauseDemands clauses))
    (written : renderClauses resolve key clauses = .ok entries) :
    EachNamed P outer entries ↔ AllWritten Q (clauseSettings clauses) := by
  cases clauses with
  | none =>
      cases written
      simp [clauseSettings]
  | some clauses =>
      obtain ⟨documents, found, made⟩ := Outcome.bind_eq_ok.mp written
      cases made
      simp only [rawFree.clausesRawFree] at free
      simp only [clauseDemands] at mapped
      simp [clauseSettings, renderAll_each sieve free mapped found]

/-- The documents of several operators hold what their settings hold. -/
theorem renderAll_each (sieve : Sieve Q P) {clauses : List (Operator Value)}
    {documents : List Value} (free : rawFree.allRawFree clauses = true)
    (mapped : AllMapped (allDemands clauses))
    (written : renderAll resolve clauses = .ok documents) :
    (∀ v ∈ documents, Each P "" "" v) ↔ AllWritten Q (allSettings clauses) := by
  cases clauses with
  | nil =>
      cases written
      simp [allSettings]
  | cons clause rest =>
      obtain ⟨document, found, more⟩ := Outcome.bind_eq_ok.mp written
      obtain ⟨others, foundAll, made⟩ := Outcome.bind_eq_ok.mp more
      cases made
      simp only [rawFree.allRawFree, Bool.and_eq_true] at free
      simp only [allDemands, allMapped_append] at mapped
      rw [allSettings, Setting.allWritten_append, List.forall_mem_cons,
        render_each sieve free.1 mapped.1 found, renderAll_each sieve free.2 mapped.2 foundAll]

end

end Operator

end Documents

/-- A leaf is no fraction. -/
def Value.Unfractioned (_ _ : String) : Value → Prop
  | .number x => ¬ x.IsRatio
  | _ => True

/-- What may be stored lets every number but a fraction through. -/
theorem storedAt_sieve : Sieve (fun x => ¬ x.IsRatio) Value.StoredAt where
  plain := fun _ => id
  text := fun _ _ _ => trivial
  code := fun _ _ _ _ => trivial
  date := fun _ _ _ => trivial
  identifier := fun _ _ _ => trivial
  matched := fun _ => .inl ⟨rfl, rfl⟩
  analyzed := fun _ _ => .inr (.inl rfl)
  ordered := fun _ _ => .inr (.inr rfl)
  number := fun _ _ _ => Iff.rfl

theorem unfractioned_sieve : Sieve (fun x => ¬ x.IsRatio) Value.Unfractioned where
  plain := fun _ => id
  text := fun _ _ _ => trivial
  code := fun _ _ _ _ => trivial
  date := fun _ _ _ => trivial
  identifier := fun _ _ _ => trivial
  matched := fun _ => trivial
  analyzed := fun _ _ => trivial
  ordered := fun _ _ => trivial
  number := fun _ _ _ => Iff.rfl

theorem anything_sieve : Sieve (fun _ => True) (fun _ _ _ => True) where
  plain := fun _ _ => trivial
  text := fun _ _ _ => trivial
  code := fun _ _ _ _ => trivial
  date := fun _ _ _ => trivial
  identifier := fun _ _ _ => trivial
  matched := fun _ => trivial
  analyzed := fun _ _ => trivial
  ordered := fun _ _ => trivial
  number := fun _ _ _ => Iff.rfl

/-- A leaf that prints is no fraction. -/
theorem Value.Prints.unfractioned {outer inner : String} {v : Value} (prints : v.Prints) :
    v.Unfractioned outer inner := by
  cases v with
  | number x =>
      cases x with
      | ratio q =>
          obtain ⟨json, made⟩ := prints
          cases made
      | _ => exact id
  | _ => trivial

/-- With a layout, the text of a document is there when its JSON is. -/
theorem print_iff {indent v : Value} {shape : Json.Layout}
    (laid : ExtendedJson.layout indent = .ok shape) :
    (∃ text, ExtendedJson.print indent v = .ok text) ↔ v.Prints := by
  unfold ExtendedJson.print Value.Prints
  simp only [laid]
  apply (Value.exists_bind_iff (fun (json : Json) _ => Value.exists_pure (json.print shape))).trans
  rw [and_true]

/-- The geometries that an accepted operator keeps were made from what they keep. -/
theorem Accepted.allMapped {op : Operator Value} (accepted : Accepted (.operator op))
    (plotted : ∀ g ∈ op.geometries, g.Plotted) : AllMapped op.demands := by
  intro demand held
  cases demand with
  | geometry argument allowed g =>
      exact ⟨accepted.allChecked _ held, plotted g (List.mem_filterMap.mpr ⟨_, held, rfl⟩)⟩
  | _ => trivial

namespace Operator

/-- The document of an accepted operator without hand-written documents, whose
geometries are plotted, can be stored as it is exactly when no number that it
shows is a fraction.  If all that may be stored prints, then the document prints
exactly when this is so. -/
theorem stored_iff {op : Operator Value} (accepted : Accepted (.operator op))
    (free : op.rawFree = true) (plotted : ∀ g ∈ op.geometries, g.Plotted) {resolve : Resolver}
    {v : Value} (written : op.render resolve = .ok v) :
    (v.Stored ↔ op.FractionFree) ∧
      (v.Each (fun outer inner leaf => leaf.StoredAt outer inner → leaf.Prints) "" "" →
        ∀ indent shape, ExtendedJson.layout indent = .ok shape →
          ((∃ text, ExtendedJson.print indent v = .ok text) ↔ op.FractionFree)) := by
  have mapped := accepted.allMapped plotted
  have stored : v.Stored ↔ op.FractionFree := render_each storedAt_sieve free mapped written
  have whole : Each Value.Unfractioned "" "" v ↔ op.FractionFree :=
    render_each unfractioned_sieve free mapped written
  have keyed : Each (fun _ _ _ => True) "" "" v :=
    (render_each anything_sieve free mapped written).mpr (fun _ _ _ => trivial)
  refine ⟨stored, ?_⟩
  intro printable indent shape laid
  rw [print_iff laid, Value.prints_iff keyed]
  constructor
  · intro prints
    exact whole.mp (prints.both (fun _ _ _ one _ => one.unfractioned) keyed)
  · intro fractionFree
    exact printable.both (fun _ _ _ prints held => prints held) (stored.mpr fractionFree)

def nearOne (pivot : Number) : Operator Value :=
  .near (.single (.name "x")) (.number (.int 1)) pivot none

theorem nearOne_accepted (pivot : Number) : Accepted (.operator (nearOne pivot)) := by
  have path : Accepted (.path (.single (.name "x"))) := by
    refine .made .singlePath [.text "x"] ?_ rfl
    intro v held m part
    rw [List.mem_singleton.mp held] at part
    cases part
  refine .made .near [.ofPath (.single (.name "x")), .number (.int 1), .number pivot, .null] ?_ rfl
  intro v held m part
  simp only [List.mem_cons, List.not_mem_nil, or_false] at held
  rcases held with rfl | rfl | rfl | rfl
  · rw [List.mem_singleton.mp part]
    exact path
  all_goals cases part

/-- The search near one with a pivot of two can be stored, and prints. -/
theorem nearOne_two_stored :
    ∃ v, (nearOne (.int 2)).render (Schema.untyped.resolver .empty) = .ok v ∧ v.Stored ∧
      ∃ text, ExtendedJson.print .null v = .ok text := by
  have fractionFree : (nearOne (.int 2)).FractionFree := by
    simp [nearOne, FractionFree, settings, Origin.settings, Score.entrySettings, Number.IsRatio,
      Number.int]
  have placed : ∀ g ∈ (nearOne (.int 2)).geometries, g.Plotted := by
    intro g held
    cases held
  have written : (nearOne (.int 2)).render (Schema.untyped.resolver .empty) =
      .ok (.object [("near", .object [("path", .text "x"), ("origin", .number (.int 1)),
        ("pivot", .number (.int 2))])]) := rfl
  obtain ⟨stored, prints⟩ := stored_iff (nearOne_accepted (.int 2)) rfl placed written
  refine ⟨_, written, stored.mpr fractionFree, (prints ?_ .null .oneLine rfl).mpr fractionFree⟩
  simp only [Value.each_object, Value.eachNamed_cons, Value.eachNamed_nil, Each, and_true]
  exact ⟨fun _ => ⟨_, rfl⟩, fun _ => ⟨_, rfl⟩, fun _ => ⟨_, rfl⟩⟩

/-- The search near one with a pivot of a half is accepted and has a document,
which can neither be stored nor printed. -/
theorem nearOne_half_not_stored :
    Accepted (.operator (nearOne (.ratio (1 / 2)))) ∧
      ∃ v, (nearOne (.ratio (1 / 2))).render (Schema.untyped.resolver .empty) = .ok v ∧
        ¬ v.Stored ∧ ¬ ∃ text, ExtendedJson.print .null v = .ok text := by
  have written : (nearOne (.ratio (1 / 2))).render (Schema.untyped.resolver .empty) =
      .ok (.object [("near", .object [("path", .text "x"), ("origin", .number (.int 1)),
        ("pivot", .number (.ratio (1 / 2)))])]) := rfl
  refine ⟨nearOne_accepted _, _, written, ?_, ?_⟩
  · intro stored
    simp only [Value.Stored, Value.each_object, Value.eachNamed_cons, Each] at stored
    exact stored.1.2.2.1 trivial
  · rintro ⟨text, made⟩
    cases made

end Operator

end SearchQuery
