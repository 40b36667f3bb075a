import Mathlib.Data.Bool.AllAny
import SearchQuery.ExtendedJson.Decode
import SearchQuery.Proofs.DateReading
import SearchQuery.Proofs.JsonReading
import SearchQuery.Proofs.StageOrder

/-!
# Values are read back from extended JSON

What a stored document is written as is read as an equal one: its identifiers,
dates and code come back from the objects that they become, and no other object
is taken for one of these, since no key of it names a type.
-/

namespace SearchQuery

/-! ## Identifiers -/

def hexLetters : List Char :=
  "0123456789abcdef".toList

/-- An identifier has twenty-four lower-case hexadecimal digits. -/
structure ObjectId.Valid (o : ObjectId) : Prop where
  length : o.hex.toList.length = 24
  digits : ∀ c ∈ o.hex.toList, c ∈ hexLetters

theorem ObjectId.Valid.unsplit {o : ObjectId} (valid : o.Valid) : Text.Unsplit o.hex.toList := by
  -- deciding a statement about all characters goes through every one, not only those of a list
  have whole : ∀ c ∈ hexLetters, Text.half? c = none :=
    List.all_iff_forall_prop.mp (by decide)
  exact .of_whole (fun c held => whole c (valid.digits c held))

/-- A date-time that exists has no offset, and its clock shows whole milliseconds. -/
structure DateTime.Plain (t : DateTime) : Prop where
  there : t.Exists
  naive : t.offset = none
  whole : t.microsecond % 1000 = 0

namespace Text

/-- No plain character is half of a pair. -/
theorem unsplit_of_ascii {chars : List Char} (ascii : ∀ c ∈ chars, c.toNat < 128) :
    Unsplit chars :=
  .of_whole (fun c held => half?_eq_none.mpr ((ascii c held).trans (by decide)))

end Text

namespace ExtendedJson

/-- Two digits make a byte that is written in these digits. -/
theorem hexPair : ∀ a ∈ hexLetters, Number.isBlank a = false ∧ ∀ b ∈ hexLetters,
    ((Text.hexValue? a).bind fun high => (Text.hexValue? b).map fun low =>
      Text.hexDigits 2 (high * 16 + low).toUInt8.toNat) = some [a, b] := by
  have solid : ∀ a ∈ hexLetters, Number.isBlank a = false :=
    List.all_iff_forall_prop.mp (by decide)
  have pairs : hexLetters.all (fun a => hexLetters.all (fun b =>
      ((Text.hexValue? a).bind fun high => (Text.hexValue? b).map fun low =>
        Text.hexDigits 2 (high * 16 + low).toUInt8.toNat) == some [a, b])) = true := by
    decide
  refine fun a first => ⟨solid a first, fun b second => eq_of_beq ?_⟩
  exact List.all_eq_true.mp (List.all_eq_true.mp pairs a first) b second

/-- Digits in pairs are the digits of as many bytes. -/
theorem hexBytes?_digits {chars : List Char} (digits : ∀ c ∈ chars, c ∈ hexLetters)
    {count : Nat} (length : chars.length = 2 * count) :
    ∃ bytes, hexBytes? chars = some bytes ∧ bytes.length = count ∧
      bytes.flatMap (fun b => Text.hexDigits 2 b.toNat) = chars := by
  induction count generalizing chars with
  | zero =>
      cases List.eq_nil_of_length_eq_zero length
      exact ⟨[], rfl, rfl, rfl⟩
  | succ count ih =>
      obtain ⟨a, b, rest, rfl⟩ : ∃ a b rest, chars = a :: b :: rest := by
        match chars, length with
        | a :: b :: rest, _ => exact ⟨a, b, rest, rfl⟩
      rw [List.forall_mem_cons, List.forall_mem_cons] at digits
      obtain ⟨first, second, others⟩ := digits
      obtain ⟨bytes, read, many, written⟩ :=
        ih others (by simp only [List.length_cons] at length; omega)
      obtain ⟨solid, pair⟩ := hexPair a first
      obtain ⟨high, left, more⟩ := Option.bind_eq_some_iff.mp (pair b second)
      obtain ⟨low, right, shown⟩ := Option.map_eq_some_iff.mp more
      refine ⟨(high * 16 + low).toUInt8 :: bytes, ?_, by simp [many], ?_⟩
      · simp [hexBytes?, solid, left, right, read]
      · rw [List.flatMap_cons, shown, written]
        rfl

theorem objectId_hex {o : ObjectId} (valid : o.Valid) (tag : Nat) :
    objectId tag (.text o.hex) = .ok (.objectId o) := by
  have twelve : o.hex.toList.length = 2 * 12 := valid.length
  obtain ⟨bytes, read, many, written⟩ := hexBytes?_digits valid.digits twelve
  have length : o.hex.length = 24 := by
    rw [← String.length_toList]
    exact valid.length
  have text : hexText bytes = o.hex := by
    rw [hexText, written, String.ofList_toList]
  have words : asText? (.text o.hex) = some o.hex := rfl
  unfold objectId
  rw [words]
  simp [read, many, length, text]

/-! ## Objects -/

/-- The entries of an object are those of the text, as long as no key stands there twice. -/
theorem foldl_insert {pairs : List (String × Value)} {entries : List (Value × Value)}
    (distinct : (pairs.map Prod.fst).Nodup)
    (fresh : ∀ pair ∈ pairs, ∀ entry ∈ entries,
      Value.sameKey entry.1 (.text pair.1) = false) :
    pairs.foldl (fun entries pair => Value.insert (.text pair.1) pair.2 entries) entries =
      entries ++ pairs.map (fun pair => (.text pair.1, pair.2)) := by
  induction pairs generalizing entries with
  | nil => simp
  | cons pair rest ih =>
      rw [List.map_cons, List.nodup_cons] at distinct
      rw [List.forall_mem_cons] at fresh
      have later : ∀ next ∈ rest, ∀ entry ∈ entries ++ [(.text pair.1, pair.2)],
          Value.sameKey entry.1 (.text next.1) = false := by
        intro next held entry inside
        rcases List.mem_append.mp inside with before | last
        · exact fresh.2 next held entry before
        · rw [List.mem_singleton.mp last, Value.sameKey_texts, beq_eq_false_iff_ne]
          rintro same
          exact distinct.1 (List.mem_map.mpr ⟨next, held, same.symm⟩)
      rw [List.foldl_cons, Value.insert_fresh pair.2 fresh.1, ih distinct.2 later]
      simp

/-- An object whose keys name no type stands for itself. -/
theorem ofObject_plain {pairs : List (String × Value)} (distinct : (pairs.map Prod.fst).Nodup)
    (plain : ∀ pair ∈ pairs, pair.1 ∉ typeKeys) (tag : Nat) :
    ofObject tag pairs = .ok (.object pairs) := by
  have untyped : typeKey? (pairs.map (fun pair => (.text pair.1, pair.2))) = none := by
    refine List.findSome?_eq_none_iff.mpr ?_
    rw [List.forall_mem_map]
    intro pair held
    simpa using plain pair held
  unfold ofObject dictionary
  rw [foldl_insert distinct (by simp), List.nil_append]
  dsimp only
  rw [untyped]
  rfl

/-- An object with one key that names a type is of that type. -/
theorem ofObject_typed {key : String} (named : key ∈ typeKeys) (v : Value) (tag : Nat) :
    ofObject tag [(key, v)] = typed tag key [(.text key, v)] := by
  have found : typeKey? [(.text key, v)] = some key := by
    simp [typeKey?, named]
  simp only [ofObject, dictionary, List.foldl_cons, List.foldl_nil, Value.insert, found]

theorem build_single {tag : Nat} {key : String} {json : Json} {v : Value}
    (built : json.build (maker (ofObject tag)) = .ok v) :
    (Json.object [(key, json)]).build (maker (ofObject tag)) = ofObject tag [(key, v)] := by
  simp only [Json.build, Json.buildEntries, built, bind, Except.bind, pure, Except.pure]
  rfl

theorem alone_only (key : String) (v : Value) : alone key [(.text key, v)] = .ok v := by
  simp [alone, require, Value.lookup, Value.find?, bind, Except.bind, pure, Except.pure]

/-! ## Dates -/

theorem typed_date (tag : Nat) (v : Value) :
    typed tag "$date" [(.text "$date", v)] = date v := by
  show (do date (← alone "$date" [(.text "$date", v)])) = _
  rw [alone_only]
  rfl

theorem date_dateText {t : DateTime} (plain : t.Plain) :
    date (.text (dateText t)) = .ok (.dateTime t) := by
  have words : asText? (.text (dateText t)) = some (dateText t) := rfl
  unfold date
  rw [words]
  simp only [readDate_dateText plain.there plain.naive plain.whole]

/-- The milliseconds of a date-time have few digits. -/
theorem epochMillis_digits {t : DateTime} (plain : t.Plain) :
    (Nat.toDigits 10 t.epochMillis.natAbs).length ≤ maxDigits := by
  have bound : t.epochMillis.natAbs < 10 ^ 17 := by
    have days := Date.ordinal_lt plain.there.date
    have short := plain.there.sinceMidnight_lt
    rw [DateTime.epochMillis, DateTime.instant, plain.naive, DateTime.wall_eq,
      Int.fdiv_eq_ediv_of_nonneg _ (by decide)]
    unfold DateTime.epoch
    rw [Option.getD_none]
    omega
  exact ((Nat.length_toDigits_le_iff (b := 10) (by decide) (by decide)).mpr bound).trans (by decide)

theorem date_long {t : DateTime} (plain : t.Plain) :
    date (.whole (.long t.epochMillis)) = .ok (.dateTime t) := by
  have words : asText? (.whole (.long t.epochMillis)) = none := rfl
  have whole : toInt (.whole (.long t.epochMillis)) = .ok t.epochMillis := rfl
  unfold date
  rw [words]
  dsimp only
  rw [whole]
  simp only [bind, Except.bind, dateOfMillis?_epochMillis plain.there plain.naive plain.whole]
  rfl

/-- A long integer is read from its text. -/
theorem typed_long {n : Int} (few : (Nat.toDigits 10 n.natAbs).length ≤ maxDigits) (tag : Nat) :
    typed tag "$numberLong" [(.text "$numberLong", .text (toString n))] =
      .ok (.whole (.long n)) := by
  show (do
    let n ← toInt (← alone "$numberLong" [(.text "$numberLong", .text (toString n))])
    return Value.number (.whole (.long n))) = _
  have read : toInt (.text (toString n)) = .ok n := by
    have words : written? (.text (toString n)) = some (toString n) := rfl
    unfold toInt
    simp only [words, Number.readInt?_toString few]
  rw [alone_only]
  simp only [bind, Except.bind, read]
  rfl

theorem toString_ascii (n : Int) : ∀ c ∈ (toString n).toList, c.toNat < 128 := by
  rw [Json.toString_eq_signed, Json.signed]
  have digits : ∀ c ∈ Nat.toDigits 10 n.natAbs, c.toNat < 128 :=
    fun c held => (Number.bare_of_isDigit (toDigits_isDigit _ c held)).1
  split
  · exact List.forall_mem_cons.mpr ⟨by decide, digits⟩
  · exact digits

theorem dateText_ascii {t : DateTime} (naive : t.offset = none) :
    ∀ c ∈ (dateText t).toList, c.toNat < 128 := by
  have digits : ∀ width n, ∀ c ∈ (Date.padded width n).toList, c.toNat < 128 :=
    fun width n c held => (Number.bare_of_isDigit (Date.padded_isDigit width n c held)).1
  have fraction : ∀ c ∈ fractionChars t, c.toNat < 128 := by
    unfold fractionChars
    split
    · simp
    · exact List.forall_mem_cons.mpr ⟨by decide, digits _ _⟩
  rw [dateText_toList naive]
  unfold clockChars
  simp only [List.forall_mem_append, List.forall_mem_cons]
  exact ⟨⟨⟨digits _ _, by decide, digits _ _, by decide, digits _ _, by decide, digits _ _,
    by decide, digits _ _, by decide, digits _ _⟩, fraction⟩, by decide, by simp⟩

/-- A plain date-time is written. -/
theorem ofDate_plain {t : DateTime} (plain : t.Plain) : ∃ json, ofDate t = .ok json := by
  have instant : t.instant = t.wall := by
    rw [DateTime.instant, plain.naive]
    exact Int.sub_zero _
  have found : DateTime.ofWall? t.instant none = some t := by
    rw [instant]
    exact plain.naive ▸ DateTime.ofWall?_wall plain.there
  unfold ofDate
  split
  · exact ⟨_, rfl⟩
  · rw [found]
    exact ⟨_, rfl⟩

/-- What a date-time is written as is read as the date-time. -/
theorem build_ofDate {t : DateTime} (plain : t.Plain) {json : Json} (written : ofDate t = .ok json)
    (tag : Nat) : json.Legible ∧ json.build (maker (ofObject tag)) = .ok (.dateTime t) := by
  unfold ofDate at written
  split at written
  · cases written
    refine ⟨⟨by decide, ?_, trivial⟩, ?_⟩
    · exact Text.unsplit_of_ascii (dateText_ascii plain.naive)
    · show ofObject tag [("$date", .text (dateText t))] = _
      rw [ofObject_typed (by decide), typed_date, date_dateText plain]
  · split at written
    · cases written
    · cases written
      have few := epochMillis_digits plain
      refine ⟨⟨by decide, ⟨by decide, ?_, trivial⟩,
        trivial⟩, ?_⟩
      · exact Text.unsplit_of_ascii (toString_ascii _)
      · have inner : (Json.object [("$numberLong", .text (toString t.epochMillis))]).build
            (maker (ofObject tag)) = .ok (.whole (.long t.epochMillis)) := by
          show ofObject tag [("$numberLong", .text (toString t.epochMillis))] = _
          rw [ofObject_typed (by decide), typed_long few]
        rw [build_single inner, ofObject_typed (by decide), typed_date, date_long plain]

/-! ## Identifiers and code in objects -/

theorem build_identifier {o : ObjectId} (valid : o.Valid) (tag : Nat) :
    (Json.object [("$oid", .text o.hex)]).build (maker (ofObject tag)) = .ok (.objectId o) := by
  show ofObject tag [("$oid", .text o.hex)] = _
  rw [ofObject_typed (by decide)]
  show (do objectId tag (← alone "$oid" [(.text "$oid", .text o.hex)])) = _
  rw [alone_only]
  exact objectId_hex valid tag

theorem build_code (s : String) (tag : Nat) :
    (Json.object [("$code", .text s)]).build (maker (ofObject tag)) = .ok (.node (.code s .null)) := by
  show ofObject tag [("$code", .text s)] = _
  rw [ofObject_typed (by decide)]
  show code [(.text "$code", .text s)] = _
  simp [code, require, Value.lookup, Value.find?, mergeScopes, bind, Except.bind, pure, Except.pure]

theorem ofObject_closure (s : String) (entries : List (Value × Value)) (tag : Nat) :
    ofObject tag [("$code", .text s), ("$scope", .dict entries)] =
      .ok (.node (.code s (.dict entries))) := by
  have found : typeKey? [(.text "$code", .text s), (.text "$scope", .dict entries)] =
      some "$code" := by
    simp [typeKey?, typeKeys]
  have inserted : dictionary [("$code", .text s), ("$scope", .dict entries)] =
      [(.text "$code", .text s), (.text "$scope", .dict entries)] := by
    simp [dictionary, Value.insert]
  unfold ofObject
  rw [inserted]
  dsimp only
  rw [found]
  show code [(.text "$code", .text s), (.text "$scope", .dict entries)] = _
  simp [code, require, Value.lookup, Value.find?, mergeScopes, bind, Except.bind, pure, Except.pure]

end ExtendedJson

/-! ## Values -/

namespace Value

/-- A value is equal to another and can be copied, and is a dictionary if the other is one. -/
structure Echoes (copy v : Value) : Prop where
  alike : copy.Alike v
  copyable : copy.copyable = true
  dictionary : ∀ entries, v = .dict entries → ∃ others, copy = .dict others

/-- What a value is written as can be read, and is read as an equal value. -/
def ReadsBack (tag : Nat) (v : Value) : Prop :=
  ∀ json, ExtendedJson.ofTerm v.toTerm = .ok json →
    json.Legible ∧ ∃ copy, json.build (ExtendedJson.maker (ExtendedJson.ofObject tag)) = .ok copy ∧ copy.Echoes v

/-- A value is read back as soon as what it is written as is read as the value itself. -/
theorem ReadsBack.of_same {tag : Nat} {v : Value} (copyable : v.copyable = true)
    (same : ∀ json, ExtendedJson.ofTerm v.toTerm = .ok json →
      json.Legible ∧ json.build (ExtendedJson.maker (ExtendedJson.ofObject tag)) = .ok v) : v.ReadsBack tag := by
  intro json written
  obtain ⟨legible, built⟩ := same json written
  exact ⟨legible, v, built, ⟨Term.alike_self _, copyable, fun entries isDict => ⟨entries, isDict⟩⟩⟩

/-- A key of a document can be read back and names no type. -/
def PlainKey (key : String) : Prop :=
  key ∉ ExtendedJson.typeKeys ∧ Text.Unsplit key.toList

/-- A document whose texts have no split pairs, whose numbers are integers and finite doubles, whose
dates are plain, whose identifiers are some, and whose keys name no type. -/
inductive Legible : Value → Prop where
  | null : Legible .null
  | bool (b : Bool) : Legible (.bool b)
  | whole (w : Whole) : Legible (.whole w)
  | double (negative : Bool) {q : Rat} (held : Double.Representable q) :
      Legible (.number (.double (.finite negative q)))
  | text {s : String} (unsplit : Text.Unsplit s.toList) : Legible (.text s)
  | date {t : DateTime} (plain : t.Plain) : Legible (.dateTime t)
  | identifier {o : ObjectId} (valid : o.Valid) : Legible (.objectId o)
  | code {s : String} (unsplit : Text.Unsplit s.toList) : Legible (.node (.code s .null))
  | closure {s : String} {entries : List (String × Value)} (unsplit : Text.Unsplit s.toList)
      (scope : Legible (.object entries)) : Legible (.node (.code s (.object entries)))
  | list {items : List Value} (all : ∀ v ∈ items, Legible v) : Legible (.list items)
  | object {entries : List (String × Value)} (distinct : (entries.map Prod.fst).Nodup)
      (keys : ∀ entry ∈ entries, PlainKey entry.1) (all : ∀ entry ∈ entries, Legible entry.2) :
      Legible (.object entries)

theorem copyable_list {items : List Value} (all : ∀ v ∈ items, v.copyable = true) :
    (Value.list items).copyable = true := by
  unfold copyable
  rw [toTerm, Term.copyable, terms_eq_map]
  induction items with
  | nil => rfl
  | cons v rest ih =>
      rw [List.forall_mem_cons] at all
      rw [List.map_cons, Term.copyableAll, ih all.2, Bool.and_true]
      exact all.1

theorem copyable_object {entries : List (String × Value)}
    (all : ∀ entry ∈ entries, entry.2.copyable = true) : (Value.object entries).copyable = true := by
  unfold copyable
  rw [toTerm_object, Term.copyable]
  induction entries with
  | nil => rfl
  | cons entry rest ih =>
      rw [List.forall_mem_cons] at all
      rw [List.map_cons, Term.copyableEntries, ih all.2, Bool.and_true]
      exact all.1

section

variable {tag : Nat}

theorem whole_readsBack (w : Whole) : (Value.whole w).ReadsBack tag := by
  intro json written
  rw [toTerm, ExtendedJson.ofTerm] at written
  unfold ExtendedJson.ofWhole at written
  split at written
  · rename_i few
    cases written
    have legible : (Json.whole w.value).Legible := by
      simpa only [Json.Legible, digitsFit, decide_eq_true_eq] using few
    exact ⟨legible, .int w.value, rfl, ⟨Term.alike_whole rfl, rfl, by rintro _ ⟨⟩⟩⟩
  · cases written

/-- The copies of several values, one by one. -/
theorem items_readBack {items : List Value} (all : ∀ v ∈ items, v.ReadsBack tag)
    {jsons : List Json} (written : ExtendedJson.ofItems (terms items) = .ok jsons) :
    Json.AllLegible jsons ∧ ∃ copies,
      Json.buildItems (ExtendedJson.maker (ExtendedJson.ofObject tag)) jsons = .ok copies ∧
        List.Forall₂ Alike copies items ∧ ∀ copy ∈ copies, copy.copyable = true := by
  induction items generalizing jsons with
  | nil =>
      cases written
      exact ⟨trivial, [], rfl, .nil, nofun⟩
  | cons v rest ih =>
      rw [List.forall_mem_cons] at all
      obtain ⟨json, first, more⟩ := Outcome.bind_eq_ok.mp written
      obtain ⟨others, later, made⟩ := Outcome.bind_eq_ok.mp more
      cases made
      obtain ⟨legible, copy, built, echoes⟩ := all.1 json first
      obtain ⟨legibleRest, copies, builtRest, alike, copyable⟩ := ih all.2 later
      refine ⟨⟨legible, legibleRest⟩, copy :: copies, ?_, .cons echoes.alike alike,
        List.forall_mem_cons.mpr ⟨echoes.copyable, copyable⟩⟩
      simp only [Json.buildItems, built, builtRest, bind, Except.bind]
      rfl

theorem list_readsBack {items : List Value} (all : ∀ v ∈ items, v.ReadsBack tag) :
    (Value.list items).ReadsBack tag := by
  intro json written
  obtain ⟨jsons, found, made⟩ := Outcome.bind_eq_ok.mp written
  cases made
  obtain ⟨legible, copies, built, alike, copyable⟩ := items_readBack all found
  refine ⟨legible, .list copies, ?_, alike_list.mpr alike, copyable_list copyable, nofun⟩
  simp only [Json.build, built, bind, Except.bind]
  rfl

/-- The copies of entries, each under the same key. -/
theorem entries_readBack {entries : List (String × Value)}
    (keys : ∀ entry ∈ entries, PlainKey entry.1) (all : ∀ entry ∈ entries, entry.2.ReadsBack tag)
    {jsons : List (String × Json)}
    (written : ExtendedJson.ofEntries
      (entries.map (fun entry => (.text entry.1, entry.2.toTerm))) = .ok jsons) :
    Json.EntriesLegible jsons ∧ ∃ copies,
      Json.buildEntries (ExtendedJson.maker (ExtendedJson.ofObject tag)) jsons = .ok copies ∧
        copies.map Prod.fst = entries.map Prod.fst ∧
          ∀ copy ∈ copies, ∃ v, (copy.1, v) ∈ entries ∧ copy.2.Echoes v := by
  induction entries generalizing jsons with
  | nil =>
      cases written
      exact ⟨trivial, [], rfl, rfl, nofun⟩
  | cons entry rest ih =>
      rw [List.forall_mem_cons] at all keys
      obtain ⟨json, first, more⟩ := Outcome.bind_eq_ok.mp written
      obtain ⟨name, named, more⟩ := Outcome.bind_eq_ok.mp more
      obtain ⟨others, later, made⟩ := Outcome.bind_eq_ok.mp more
      cases named
      cases made
      obtain ⟨legible, copy, built, echoes⟩ := all.1 json first
      obtain ⟨legibleRest, copies, builtRest, names, echoesRest⟩ := ih keys.2 all.2 later
      refine ⟨⟨keys.1.2, legible, legibleRest⟩, (entry.1, copy) :: copies, ?_, by simp [names], ?_⟩
      · simp only [Json.buildEntries, built, builtRest, bind, Except.bind]
        rfl
      · refine List.forall_mem_cons.mpr ⟨⟨entry.2, List.mem_cons_self, echoes⟩, ?_⟩
        intro later held
        obtain ⟨v, inside, echo⟩ := echoesRest later held
        exact ⟨v, List.mem_cons_of_mem _ inside, echo⟩

theorem object_readsBack {entries : List (String × Value)}
    (distinct : (entries.map Prod.fst).Nodup) (keys : ∀ entry ∈ entries, PlainKey entry.1)
    (all : ∀ entry ∈ entries, entry.2.ReadsBack tag) : (Value.object entries).ReadsBack tag := by
  intro json written
  rw [toTerm_object] at written
  obtain ⟨jsons, found, made⟩ := Outcome.bind_eq_ok.mp written
  cases made
  obtain ⟨legible, copies, built, names, same⟩ := entries_readBack keys all found
  have plain : ∀ copy ∈ copies, copy.1 ∉ ExtendedJson.typeKeys := by
    intro copy held
    obtain ⟨v, inside, -⟩ := same copy held
    exact (keys _ inside).1
  refine ⟨legible, .object copies, ?_, ?_, ?_, fun _ _ => ⟨_, rfl⟩⟩
  · simp only [Json.build, built, bind, Except.bind]
    exact ExtendedJson.ofObject_plain (names ▸ distinct) plain tag
  · have length : copies.length = entries.length := by
      simpa using congrArg List.length names
    refine alike_object.mpr ⟨length, ?_⟩
    intro copy held
    obtain ⟨v, inside, echo⟩ := same copy held
    exact ⟨v, inside, echo.alike⟩
  · refine copyable_object (fun copy held => ?_)
    obtain ⟨v, -, echo⟩ := same copy held
    exact echo.copyable

/-- Code is read back when its scope is. -/
theorem closure_readsBack {s : String} {entries : List (String × Value)}
    (unsplit : Text.Unsplit s.toList) (scope : (Value.object entries).ReadsBack tag) :
    (Value.node (.code s (.object entries))).ReadsBack tag := by
  intro json written
  have shown : toTerm (.node (.code s (.object entries))) = .code s (toTerm (.object entries)) := by
    simp only [toTerm, Node.toTerm]
  rw [shown, toTerm_object] at written
  obtain ⟨json, found, made⟩ := Outcome.bind_eq_ok.mp written
  cases made
  rw [← toTerm_object] at found
  obtain ⟨legible, copy, built, alike, copied, dictionary⟩ := scope json found
  obtain ⟨others, rfl⟩ := dictionary _ rfl
  refine ⟨⟨by decide, unsplit, by decide, legible,
    trivial⟩, .node (.code s (.dict others)), ?_, ?_, ?_, by rintro _ ⟨⟩⟩
  · simp only [Json.build, Json.buildEntries, built, bind, Except.bind, pure, Except.pure]
    exact ExtendedJson.ofObject_closure s others tag
  · have inner : (toTerm (.dict others)).matching (toTerm (.object entries)) = true := alike
    unfold Alike
    rw [shown, Term.Alike]
    simp only [toTerm, Node.toTerm, Term.matching, beq_self_eq_true, Bool.true_and] at inner ⊢
    exact inner
  · unfold copyable at copied ⊢
    simpa only [toTerm, Node.toTerm, Term.copyable] using copied

theorem Legible.readsBack {v : Value} (legible : v.Legible) (tag : Nat) : v.ReadsBack tag := by
  induction legible with
  | null => exact .of_same rfl (by rintro _ ⟨⟩; exact ⟨trivial, rfl⟩)
  | bool b => exact .of_same rfl (by rintro _ ⟨⟩; exact ⟨trivial, rfl⟩)
  | whole w => exact whole_readsBack w
  | double negative held => exact .of_same rfl (by rintro _ ⟨⟩; exact ⟨held, rfl⟩)
  | text unsplit => exact .of_same rfl (by rintro _ ⟨⟩; exact ⟨unsplit, rfl⟩)
  | date plain =>
      refine .of_same rfl ?_
      intro json written
      exact ExtendedJson.build_ofDate plain written tag
  | identifier valid =>
      refine .of_same rfl ?_
      rintro _ ⟨⟩
      exact ⟨⟨by decide, valid.unsplit, trivial⟩,
        ExtendedJson.build_identifier valid tag⟩
  | code unsplit =>
      refine .of_same rfl ?_
      rintro _ ⟨⟩
      exact ⟨⟨by decide, unsplit, trivial⟩,
        ExtendedJson.build_code _ tag⟩
  | closure unsplit scope ih => exact closure_readsBack unsplit ih
  | list all ih => exact list_readsBack ih
  | object distinct keys all ih => exact object_readsBack distinct keys ih

end

end Value

end SearchQuery
