import SearchQuery.Proofs.GeometryAcceptance
import SearchQuery.Proofs.JsonRecognition
import SearchQuery.Proofs.ReadBack

/-!
# Texts of hand-written documents

A text is accepted as a hand-written document exactly when it is well formed and
everything in it is valid.  Typed values are refused in many ways, of which one
is reported.  The characters given up for halves of surrogate pairs (`Text.half?`)
stand for those halves in a text as well.
-/

namespace SearchQuery

/-!
## What a typed value can be refused as

Only an object that names a type is refused: for a key that it lacks, for
something that a value in it does not offer, or on account of the host.  No such
refusal is the report of an argument: who reads a text has to translate it.
-/

open Outcome (FailsAs)

namespace ExtendedJson

/-! ### Parts of typed values -/

theorem wrongType_fails {α : Type} : FailsAs Fault.Foreign (wrongType : Checked α) :=
  .error trivial

theorem badValue_fails {α : Type} : FailsAs Fault.Foreign (badValue : Checked α) :=
  .error trivial

section

variable (key : String) (entries : List (Value × Value)) (v : Value)

theorem require_fails : FailsAs Fault.Foreign (require key entries) := by
  unfold require
  split
  · exact .ok _
  · exact .error trivial

theorem requireEntries_fails : FailsAs Fault.Foreign (requireEntries v) := by
  unfold requireEntries
  split
  · exact .ok _
  · exact wrongType_fails

theorem alone_fails : FailsAs Fault.Foreign (alone key entries) := by
  refine .bind (require_fails key entries) (fun v _ => ?_)
  split
  · exact wrongType_fails
  · exact .ok _

theorem toInt_fails : FailsAs Fault.Foreign (toInt v) := by
  unfold toInt
  split
  · exact .ok _
  · exact .ok _
  · exact .ok _
  · exact .error trivial
  · exact badValue_fails
  · split
    · exact wrongType_fails
    · split
      · exact .ok _
      · exact badValue_fails

theorem objectId_fails (tag : Nat) : FailsAs Fault.Foreign (objectId tag v) := by
  unfold objectId
  split
  · exact .ok _
  · exact .ok _
  · split
    · split
      · exact .ok _
      · exact .error trivial
    · exact .error trivial
  · split
    · exact .ok _
    · exact wrongType_fails
  · exact wrongType_fails

theorem date_fails : FailsAs Fault.Foreign (date v) := by
  unfold date
  split
  · split
    · exact .ok _
    · exact badValue_fails
    · exact .error trivial
  · refine .bind (toInt_fails v) (fun millis _ => ?_)
    split
    · exact .ok _
    · exact .error trivial

theorem optionLetter_fails : FailsAs Fault.Foreign (optionLetter v) := by
  unfold optionLetter
  split
  · exact wrongType_fails
  · split <;> exact .ok _

theorem legacyRegex_fails : FailsAs Fault.Foreign (legacyRegex entries) := by
  refine .bind (require_fails _ entries) (fun v _ => ?_)
  split
  · refine .bind (Value.toItems_fails _) (fun items _ => ?_)
    exact .bind (Guard.each_fails optionLetter_fails items) (fun letters _ => .ok _)
  · exact .ok _

theorem canonicalRegex_fails : FailsAs Fault.Foreign (canonicalRegex v) := by
  unfold canonicalRegex
  split
  · split
    · exact wrongType_fails
    · refine .bind (require_fails _ _) (fun options _ => ?_)
      split
      · refine .bind (require_fails _ _) (fun pattern _ => ?_)
        split
        · exact .ok _
        · exact wrongType_fails
      · exact wrongType_fails
  · exact wrongType_fails

theorem bytesOfSubtype_fails (bytes : List UInt8) (subtype : Int) :
    FailsAs Fault.Foreign (bytesOfSubtype bytes subtype) := by
  unfold bytesOfSubtype
  split_ifs
  · exact .ok _
  · exact badValue_fails
  · exact .ok _

theorem canonicalBinary_fails : FailsAs Fault.Foreign (canonicalBinary v) := by
  refine .bind (requireEntries_fails v) (fun entries _ => .bind (require_fails _ _)
    (fun encoded _ => .bind (require_fails _ _) (fun subtype _ => ?_)))
  split
  · split_ifs
    · exact wrongType_fails
    · exact wrongType_fails
    · split
      · exact bytesOfSubtype_fails _ _
      · exact badValue_fails
  · exact wrongType_fails

theorem notEncodable_foreign : (notEncodable v).Foreign := by
  unfold notEncodable
  split
  · split_ifs
    · trivial
    · exact Value.absence_foreign _ _
  · exact Value.absence_foreign _ _

theorem legacyBinary_fails (encoded subtype : Value) :
    FailsAs Fault.Foreign (legacyBinary encoded subtype) := by
  unfold legacyBinary
  extract_lets withSubtype withDigits
  have ended : ∀ n, FailsAs Fault.Foreign (withSubtype n) := by
    intro n
    unfold withSubtype
    split
    · split
      · exact bytesOfSubtype_fails _ _
      · exact badValue_fails
    · exact .error (notEncodable_foreign _)
  have read : ∀ digits, FailsAs Fault.Foreign (withDigits digits) := by
    intro digits
    unfold withDigits
    extract_lets withNumber
    have cut : ∀ n, FailsAs Fault.Foreign (withNumber n) := by
      intro n
      unfold withNumber
      split
      · split
        · exact ended _
        · exact .bind badValue_fails (fun n _ => ended n)
      · exact ended _
    split
    · exact cut _
    · exact .bind badValue_fails (fun n _ => cut n)
  split
  · exact read _
  · exact read _
  · split
    · exact read _
    · exact .bind wrongType_fails (fun digits _ => read digits)

theorem binary_fails : FailsAs Fault.Foreign (binary entries) := by
  unfold binary
  split
  · exact .bind (require_fails _ _) (fun encoded _ => legacyBinary_fails _ _)
  · exact .bind (require_fails _ _) (fun v _ => canonicalBinary_fails v)

theorem uuid_fails : FailsAs Fault.Foreign (uuid v) := by
  unfold uuid
  split
  · dsimp only
    split
    · exact badValue_fails
    · split
      · split
        · exact badValue_fails
        · exact .ok _
      · exact badValue_fails
  · exact wrongType_fails

theorem tick_fails : FailsAs Fault.Foreign (tick v) := by
  unfold tick
  split
  · exact .ok _
  · exact .ok _
  · exact wrongType_fails

theorem tickOfTime_fails : FailsAs Fault.Foreign (tickOfTime v) := by
  unfold tickOfTime
  split
  · exact .ok _
  · exact tick_fails _

theorem timestamp_fails : FailsAs Fault.Foreign (timestamp v) := by
  refine .bind (requireEntries_fails v) (fun entries _ => ?_)
  split
  · refine .bind (tickOfTime_fails _) (fun t _ => .bind (tick_fails _) (fun i _ => ?_))
    split
    · exact .ok _
    · exact badValue_fails
  · exact wrongType_fails

theorem double_fails (tag : Nat) : FailsAs Fault.Foreign (double tag v) := by
  unfold double
  split
  · split
    · exact .ok _
    · exact badValue_fails
  · exact wrongType_fails

theorem decimal128_fails : FailsAs Fault.Foreign (decimal128 v) := by
  unfold decimal128
  split
  · split
    · exact .ok _
    all_goals exact .error trivial
  · exact wrongType_fails

theorem extremeKey_fails (key : Special) : FailsAs Fault.Foreign (extremeKey key v entries) := by
  unfold extremeKey
  split
  · split
    · exact wrongType_fails
    · exact .ok _
  · exact wrongType_fails

theorem mergeScopes_fails (inner outer : Value) :
    FailsAs Fault.Foreign (mergeScopes inner outer) := by
  unfold mergeScopes
  split
  · exact .ok _
  · exact .ok _
  · exact .ok _
  · exact wrongType_fails

theorem code_fails : FailsAs Fault.Foreign (code entries) := by
  unfold code
  dsimp only
  split
  · exact wrongType_fails
  · refine .bind (require_fails _ _) (fun v _ => ?_)
    split
    · exact .bind (mergeScopes_fails _ _) (fun scope _ => .ok _)
    · exact .bind (mergeScopes_fails _ _) (fun scope _ => .ok _)
    · exact wrongType_fails

theorem pointerOthers_fails : FailsAs Fault.Foreign (pointerOthers entries) := by
  unfold pointerOthers
  dsimp only
  split
  · exact .ok _
  · split
    · exact .bind (Value.toEntries_fails _) (fun others _ => .ok _)
    · exact .ok _

theorem pointer_fails : FailsAs Fault.Foreign (pointer entries) := by
  unfold pointer
  extract_lets make
  have made : ∀ collection id database, FailsAs Fault.Foreign (make collection id database) := by
    intro collection id database
    unfold make
    split
    · exact wrongType_fails
    · exact .bind (pointerOthers_fails entries) (fun others _ => .ok _)
  split
  · exact made _ _ _
  · split
    · exact made _ _ _
    · exact .ok _
  · exact .ok _

theorem lonePointer_fails : FailsAs Fault.Foreign (lonePointer v) := by
  unfold lonePointer
  split
  · split
    · exact .ok _
    · exact wrongType_fails
  · exact wrongType_fails

end

theorem typed_fails (tag : Nat) (key : String) (entries : List (Value × Value)) :
    FailsAs Fault.Foreign (typed tag key entries) := by
  have lone := alone_fails key entries
  have needed := require_fails key entries
  unfold typed
  split
  · exact .bind lone (fun v _ => objectId_fails v tag)
  · exact pointer_fails entries
  · exact .bind lone (fun v _ => date_fails v)
  · exact legacyRegex_fails entries
  · exact .bind needed (fun v _ => extremeKey_fails entries v _)
  · exact .bind needed (fun v _ => extremeKey_fails entries v _)
  · exact binary_fails entries
  · exact code_fails entries
  · exact .bind lone (fun v _ => uuid_fails v)
  · exact .ok _
  · exact .bind lone (fun v _ => .bind (toInt_fails v) (fun n _ => .ok _))
  · exact .bind lone (fun v _ => timestamp_fails v)
  · exact .bind lone (fun v _ => decimal128_fails v)
  · exact .bind lone (fun v _ => lonePointer_fails v)
  · exact .bind lone (fun v _ => canonicalRegex_fails v)
  · exact .bind lone (fun v _ => .ok _)
  · refine .bind lone (fun v _ => ?_)
    split
    · split
      · exact .ok _
      · exact badValue_fails
    · exact wrongType_fails
  · exact .bind lone (fun v _ => double_fails v tag)
  · exact .ok _

/-- An object of a text is refused for a key, for something it does not offer, or by the host. -/
theorem ofObject_fails (tag : Nat) (pairs : List (String × Value)) :
    FailsAs Fault.Foreign (ofObject tag pairs) := by
  unfold ofObject
  dsimp only
  split
  · exact typed_fails _ _ _
  · exact .ok _

/-! ### Which objects are refused -/

/-- An object that names a type by one of its keys. -/
def NamesType (pairs : List (String × Value)) : Prop :=
  ∃ pair ∈ pairs, pair.1 ∈ typeKeys

theorem key_of_mem_insert {key v : Value} {entries : List (Value × Value)} {entry : Value × Value}
    (held : entry ∈ Value.insert key v entries) :
    entry.1 = key ∨ ∃ old ∈ entries, old.1 = entry.1 := by
  induction entries with
  | nil =>
      rw [Value.insert, List.mem_singleton] at held
      rw [held]
      exact .inl rfl
  | cons first rest ih =>
      unfold Value.insert at held
      split at held
      · rcases List.mem_cons.mp held with rfl | later
        · exact .inr ⟨first, List.mem_cons_self, rfl⟩
        · exact .inr ⟨entry, List.mem_cons_of_mem _ later, rfl⟩
      · rcases List.mem_cons.mp held with rfl | later
        · exact .inr ⟨first, List.mem_cons_self, rfl⟩
        · rcases ih later with same | ⟨old, before, same⟩
          · exact .inl same
          · exact .inr ⟨old, List.mem_cons_of_mem _ before, same⟩

/-- The keys of an object are those it was written with. -/
theorem key_of_mem_foldl {pairs : List (String × Value)} {entries : List (Value × Value)}
    {entry : Value × Value} (held : entry ∈
      pairs.foldl (fun entries pair => Value.insert (.text pair.1) pair.2 entries) entries) :
    (∃ pair ∈ pairs, entry.1 = .text pair.1) ∨ ∃ old ∈ entries, old.1 = entry.1 := by
  induction pairs generalizing entries with
  | nil => exact .inr ⟨entry, held, rfl⟩
  | cons pair rest ih =>
      rcases ih held with ⟨later, inside, same⟩ | ⟨old, before, same⟩
      · exact .inl ⟨later, List.mem_cons_of_mem _ inside, same⟩
      · rcases key_of_mem_insert before with now | ⟨older, earlier, equal⟩
        · exact .inl ⟨pair, List.mem_cons_self, same.symm.trans now⟩
        · exact .inr ⟨older, earlier, equal.trans same⟩

/-- An object with a key of a type names it. -/
theorem namesType_of_typeKey? {pairs : List (String × Value)} {key : String}
    (found : typeKey? (dictionary pairs) = some key) : NamesType pairs := by
  obtain ⟨entry, held, named⟩ := List.exists_of_findSome?_eq_some found
  obtain ⟨pair, written, same⟩ | ⟨old, none, -⟩ := key_of_mem_foldl held
  · rw [same] at named
    refine ⟨pair, written, ?_⟩
    dsimp only at named
    split at named
    · rename_i known
      exact List.contains_iff_mem.mp known
    · cases named
  · cases none

/-- How the host reads the objects of a text, as far as it is documented: one that names no type is
a dictionary of its entries, and what is refused is refused on the host's own account. -/
structure ObjectReading (object : List (String × Value) → Checked Value) : Prop where
  plain : ∀ pairs, ¬ NamesType pairs → object pairs = .ok (.dict (dictionary pairs))
  foreign : ∀ pairs, FailsAs Fault.Foreign (object pairs)

/-- Only an object that names a type is refused. -/
theorem ObjectReading.namesType {object : List (String × Value) → Checked Value}
    (reading : ObjectReading object) {pairs : List (String × Value)} {fault : Fault Value}
    (refused : object pairs = .error fault) : NamesType pairs := by
  by_contra plain
  rw [reading.plain pairs plain] at refused
  cases refused

theorem ofObject_reading (tag : Nat) : ObjectReading (ofObject tag) := by
  refine ⟨fun pairs plain => ?_, ofObject_fails tag⟩
  have untyped : typeKey? (dictionary pairs) = none := by
    cases found : typeKey? (dictionary pairs) with
    | none => rfl
    | some key => exact absurd (namesType_of_typeKey? found) plain
  unfold ofObject
  dsimp only
  rw [untyped]

end ExtendedJson

/-!
## Which texts are hand-written documents

A text is accepted as a hand-written document exactly when it is well formed,
everything in it is valid and it is a dictionary.  Any other text is reported,
unless it gets to a typed value that is refused as anything else than a bad
value: of the refusals only that one is translated into a report.

How typed values are read is up to the host, so that all of this is said of
every way to read the objects of a text.
-/

namespace ExtendedJson

section

variable (object : List (String × Value) → Checked Value)

/-- A text stands for a value: it is well formed, and everything in it is valid. -/
def StandsFor (s : String) (v : Value) : Prop :=
  ∃ json, Json.WellFormed s json ∧ Json.Valid (maker object) json v

/-- A text gets to a typed value that is refused otherwise than as a bad value, with everything
before it valid. -/
def Slips (s : String) (fault : Fault Value) : Prop :=
  Json.MeetsRefusal (maker object) s fault ∧ fault ≠ .refused .badValue

end

/-! ### Reading -/

section

variable {object : List (String × Value) → Checked Value} {given v : Value} {s : String}
  {fault : Fault Value}

/-- What slips past a report is the refusal of an object that names a type. -/
theorem Slips.exists_object (slips : Slips object s fault) (reading : ObjectReading object) :
    ∃ pairs, NamesType pairs ∧ object pairs = .error fault := by
  obtain ⟨start, -, refused⟩ := slips.1
  obtain ⟨pairs, one⟩ := refused.exists_object
  exact ⟨pairs, reading.namesType one, one⟩

theorem Slips.foreign (slips : Slips object s fault) (reading : ObjectReading object) :
    fault.Foreign := by
  obtain ⟨pairs, -, refused⟩ := slips.exists_object reading
  exact reading.foreign pairs fault refused

theorem read_eq_ok : read object given s = .ok v ↔ StandsFor object s v := by
  unfold StandsFor
  rw [← Json.read_eq_ok]
  unfold read
  split
  · rename_i w outcome
    rw [outcome, Except.ok.injEq, Except.ok.injEq]
  all_goals
    rename_i outcome
    rw [outcome]
    exact iff_of_false nofun nofun

theorem Slips.read (slips : Slips object s fault) (given : Value) :
    ExtendedJson.read object given s = .error fault := by
  obtain ⟨meets, other⟩ := slips
  have rejected := Json.read_eq_rejected.mpr meets
  unfold ExtendedJson.read
  rw [rejected]
  split
  · rename_i outcome
    cases outcome
  · rename_i outcome
    cases outcome
  · rename_i outcome
    cases outcome
    exact absurd rfl other
  · rename_i outcome
    cases outcome
    rfl

/-- A text that stands for nothing and slips past no report is reported. -/
theorem read_reported (nothing : ∀ v, ¬ StandsFor object s v)
    (reported : ∀ fault, ¬ Slips object s fault) (given : Value) :
    read object given s = .error (.invalid "document" given .notJson) := by
  unfold ExtendedJson.read
  split
  · rename_i v outcome
    exact absurd (Json.read_eq_ok.mp outcome) (nothing v)
  · rfl
  · rfl
  · rename_i fault other outcome
    exact absurd ⟨Json.read_eq_rejected.mp outcome, fun bad => other (by rw [bad])⟩ (reported fault)

end

end ExtendedJson

namespace Operator

open ExtendedJson (Slips ObjectReading StandsFor)

/-- What is no dictionary is reported as such. -/
theorem ofRaw_reported {v : Value} (other : ∀ entries, v ≠ .dict entries) :
    ∃ reason, ofRaw v = .error (.invalid "document" v reason) := by
  cases v with
  | dict entries => exact absurd rfl (other entries)
  | null => exact ⟨.missing, rfl⟩
  | _ => exact ⟨_, rfl⟩

theorem ofRaw_eq_ok {v : Value} {op : Operator Value} :
    ofRaw v = .ok op ↔ ∃ entries, v = .dict entries ∧ op = .raw entries := by
  constructor
  · intro made
    by_cases dictionary : ∃ entries, v = .dict entries
    · obtain ⟨entries, rfl⟩ := dictionary
      cases made
      exact ⟨entries, rfl, rfl⟩
    · obtain ⟨reason, refused⟩ := ofRaw_reported (not_exists.mp dictionary)
      rw [refused] at made
      cases made
  · rintro ⟨entries, rfl, rfl⟩
    rfl

section

variable {object : List (String × Value) → Checked Value} {document : Value} {s : String}

theorem rawBy_text (text : ExtendedJson.asText? document = some s) :
    rawBy object document = ExtendedJson.read object document s >>= ofRaw := by
  unfold rawBy
  rw [text]

theorem rawBy_text_eq_ok (text : ExtendedJson.asText? document = some s) {op : Operator Value} :
    rawBy object document = .ok op ↔
      ∃ entries, StandsFor object s (.dict entries) ∧ op = .raw entries := by
  rw [rawBy_text text, Outcome.bind_eq_ok]
  simp only [ExtendedJson.read_eq_ok, ofRaw_eq_ok]
  constructor
  · rintro ⟨v, stands, entries, rfl, rfl⟩
    exact ⟨entries, stands, rfl⟩
  · rintro ⟨entries, stands, rfl⟩
    exact ⟨_, stands, entries, rfl, rfl⟩

theorem rawBy_text_slips (text : ExtendedJson.asText? document = some s) {fault : Fault Value}
    (slips : Slips object s fault) : rawBy object document = .error fault := by
  rw [rawBy_text text, slips.read]
  rfl

/-- A text that is no dictionary and slips past no report is reported. -/
theorem rawBy_text_reported (text : ExtendedJson.asText? document = some s)
    (nothing : ∀ entries, ¬ StandsFor object s (.dict entries))
    (reported : ∀ fault, ¬ Slips object s fault) :
    ∃ v reason, rawBy object document = .error (.invalid "document" v reason) := by
  rw [rawBy_text text]
  by_cases stands : ∃ v, StandsFor object s v
  · obtain ⟨v, stands⟩ := stands
    have other : ∀ entries, v ≠ .dict entries := by
      rintro entries rfl
      exact nothing entries stands
    obtain ⟨reason, refused⟩ := ofRaw_reported other
    refine ⟨v, reason, ?_⟩
    rw [ExtendedJson.read_eq_ok.mpr stands]
    exact refused
  · refine ⟨document, .notJson, ?_⟩
    rw [ExtendedJson.read_reported (not_exists.mp stands) reported]
    rfl

/-- However the host reads objects, a text is accepted exactly when it stands for a dictionary, and
every other text is reported exactly when nothing in it slips past that: what does is raised as it
is, and is the host's refusal of an object that names a type. -/
theorem raw_text_decided_iff (reading : ObjectReading object)
    (text : ExtendedJson.asText? document = some s) :
    (∀ op, rawBy object document = .ok op ↔
      ∃ entries, StandsFor object s (.dict entries) ∧ op = .raw entries) ∧
    (((¬ ∃ entries, StandsFor object s (.dict entries)) →
        ∃ v reason, rawBy object document = .error (.invalid "document" v reason)) ↔
      ∀ fault, ¬ Slips object s fault) ∧
    ∀ fault, Slips object s fault → rawBy object document = .error fault ∧ fault.Foreign ∧
      ∃ pairs, ExtendedJson.NamesType pairs ∧ object pairs = .error fault := by
  refine ⟨fun op => rawBy_text_eq_ok text, ⟨?_, ?_⟩, fun fault slips =>
    ⟨rawBy_text_slips text slips, slips.foreign reading, slips.exists_object reading⟩⟩
  · intro decided fault slips
    have raised := rawBy_text_slips text slips
    have nothing : ¬ ∃ entries, StandsFor object s (.dict entries) := by
      rintro ⟨entries, stands⟩
      have made : rawBy object document = .ok (.raw entries) :=
        (rawBy_text_eq_ok text).mpr ⟨entries, stands, rfl⟩
      rw [raised] at made
      cases made
    obtain ⟨v, reason, same⟩ := decided nothing
    rw [raised] at same
    cases same
    exact slips.foreign reading
  · intro reported nothing
    exact rawBy_text_reported text (not_exists.mp nothing) reported

end

/-- A document with a number of a type. -/
def limitJson : Json :=
  .object [("limit", .object [("$numberLong", .text "5")])]

def limitText : String :=
  "\x7b\"limit\": \x7b\"$numberLong\": \"5\"\x7d\x7d"

theorem limitJson_print : limitJson.print .oneLine ++ "" = limitText :=
  rfl

theorem limitJson_built :
    limitJson.build (ExtendedJson.maker (ExtendedJson.ofObject 0)) =
      .ok (.object [("limit", .whole (.long 5))]) := by
  have five : (Json.object [("$numberLong", .text "5")]).build
      (ExtendedJson.maker (ExtendedJson.ofObject 0)) = .ok (.whole (.long 5)) := by
    rw [ExtendedJson.build_single rfl, ExtendedJson.ofObject_typed (by decide)]
    exact ExtendedJson.typed_long (n := 5) (by decide) 0
  rw [limitJson, ExtendedJson.build_single five]
  exact ExtendedJson.ofObject_plain (by decide) (by decide) 0

theorem limitText_accepted :
    makeRaw 0 (.text limitText) = .ok (.raw [(.text "limit", .whole (.long 5))]) := by
  have legible : limitJson.Legible := by
    refine ⟨?_, ⟨?_, ?_, trivial⟩, trivial⟩ <;>
      exact .of_whole (by simp [Text.half?, Text.firstHalf])
  have blank : Json.Layout.oneLine.Blank := by
    intro unit held
    cases held
  have read : Json.read (ExtendedJson.maker (ExtendedJson.ofObject 0))
      (limitJson.print .oneLine ++ "") = .ok (.object [("limit", .whole (.long 5))]) :=
    Json.read_print blank legible limitJson_built (by simp)
  rw [limitJson_print] at read
  have text : ExtendedJson.asText? (.text limitText) = some limitText := rfl
  rw [makeRaw, rawBy_text text, ExtendedJson.read, read]
  rfl

/-- It is accepted with the number in it. -/
theorem limitText_decided :
    ObjectReading (ExtendedJson.ofObject 0) ∧
      ExtendedJson.asText? (.text limitText) = some limitText ∧
      makeRaw 0 (.text limitText) = .ok (.raw [(.text "limit", .whole (.long 5))]) ∧
      StandsFor (ExtendedJson.ofObject 0) limitText (.dict [(.text "limit", .whole (.long 5))]) ∧
      ∀ fault, ¬ Slips (ExtendedJson.ofObject 0) limitText fault := by
  have made := limitText_accepted
  have text : ExtendedJson.asText? (.text limitText) = some limitText := rfl
  have reading := ExtendedJson.ofObject_reading 0
  obtain ⟨accepts, -, raised⟩ := raw_text_decided_iff reading text
  obtain ⟨entries, stands, same⟩ := (accepts _).mp made
  cases same
  refine ⟨reading, text, made, stands, fun fault slips => ?_⟩
  unfold makeRaw at made
  rw [(raised fault slips).1] at made
  cases made

/-- A document with an identifier that is none. -/
def brokenId : String :=
  "\x7b\"a\": \x7b\"$oid\": \"zz\"\x7d\x7d"

theorem shortId_refused :
    ExtendedJson.ofObject 0 [("$oid", .text "zz")] = .error (.refused .badObjectId) := by
  rw [ExtendedJson.ofObject_typed (by decide)]
  show (do ExtendedJson.objectId 0 (← ExtendedJson.alone "$oid" [(.text "$oid", .text "zz")])) = _
  rw [ExtendedJson.alone_only]
  rfl

/-- Its identifier is met, and refused otherwise than as a bad value. -/
theorem brokenId_slips : Slips (ExtendedJson.ofObject 0) brokenId (.refused .badObjectId) := by
  have key : ∀ rest, Json.Named ('"' :: (['a'] ++ '"' :: ':' :: ' ' :: '\x7b' :: rest)) "a"
      ('\x7b' :: rest) := fun rest =>
    .key (.of_plain _ (by simp)) (.here _) (.skip rfl (.here _))
  have typeKey : ∀ rest, Json.Named ('"' :: (['$', 'o', 'i', 'd'] ++ '"' :: ':' :: ' ' :: '"' :: rest))
      "$oid" ('"' :: rest) := fun rest =>
    .key (.of_plain _ (by simp)) (.here _) (.skip rfl (.here _))
  have text : ∀ rest, Json.Formed ('"' :: (['z', 'z'] ++ '"' :: rest)) (.text "zz") rest :=
    fun rest => .text (.of_plain _ (by simp))
  have object : ∀ rest, Json.Formed ('\x7b' :: '"' :: (['$', 'o', 'i', 'd'] ++ '"' :: ':' :: ' ' ::
      '"' :: (['z', 'z'] ++ '"' :: '\x7d' :: rest))) (.object [("$oid", .text "zz")]) rest :=
    fun rest => .object (.here _) (.last (typeKey _) (text _) (.here _))
  have chars : brokenId.toList = '\x7b' :: '"' :: (['a'] ++ '"' :: ':' :: ' ' :: '\x7b' :: '"' ::
      (['$', 'o', 'i', 'd'] ++ '"' :: ':' :: ' ' :: '"' ::
        (['z', 'z'] ++ '"' :: '\x7d' :: ['\x7d']))) := by
    simp [brokenId]
  have valid : Json.EntriesValid (ExtendedJson.maker (ExtendedJson.ofObject 0))
      [("$oid", .text "zz")] [("$oid", .text "zz")] := ⟨⟨trivial, trivial⟩, rfl⟩
  refine ⟨⟨_, .here _, ?_⟩, nofun⟩
  rw [chars]
  exact .entry (.here _) (.here (key _) (.itself (object _) valid shortId_refused))

/-- It is neither accepted nor reported. -/
theorem brokenId_not_decided :
    ¬ (∃ entries, StandsFor (ExtendedJson.ofObject 0) brokenId (.dict entries)) ∧
      (¬ ∃ op, makeRaw 0 (.text brokenId) = .ok op) ∧
      ¬ ∃ v reason, makeRaw 0 (.text brokenId) = .error (.invalid "document" v reason) := by
  have text : ExtendedJson.asText? (.text brokenId) = some brokenId := rfl
  have raised : makeRaw 0 (.text brokenId) = .error (.refused .badObjectId) :=
    rawBy_text_slips text brokenId_slips
  rw [raised]
  refine ⟨?_, by simp, by simp⟩
  rintro ⟨entries, stands⟩
  have made : makeRaw 0 (.text brokenId) = .ok (.raw entries) :=
    (rawBy_text_eq_ok text).mpr ⟨entries, stands, rfl⟩
  rw [raised] at made
  cases made

end Operator

end SearchQuery
