import SearchQuery.Proofs.JsonNumbers
import SearchQuery.Proofs.JsonStrings
import SearchQuery.Proofs.Outcome

/-!
# Documents are read back

What a reader makes of the text of a document is what it makes of the document
part by part, whatever the layout, as long as it is indented by white space.
The reader is handed more fuel than it needs: a value takes no more than twice
the length of its text.
-/

namespace SearchQuery

namespace Json

section Building

variable {α ε : Type} (maker : Maker α ε)

mutual

/-- What a reader makes of a document, from the inside out. -/
def build : Json → Except ε α
  | .null => .ok maker.null
  | .bool b => .ok (maker.bool b)
  | .whole n => .ok (maker.whole n)
  | .double d => .ok (maker.double d)
  | .text s => .ok (maker.text s)
  | .array items => do
    let made ← buildItems items
    return maker.array made
  | .object entries => do
    let made ← buildEntries entries
    maker.object made

def buildItems : List Json → Except ε (List α)
  | [] => .ok []
  | item :: rest => do
    let a ← build item
    let others ← buildItems rest
    return a :: others

def buildEntries : List (String × Json) → Except ε (List (String × α))
  | [] => .ok []
  | (key, item) :: rest => do
    let a ← build item
    let others ← buildEntries rest
    return (key, a) :: others

end

end Building

mutual

/-- A document can be read back: its texts have no split pairs, its integers not too many digits,
and its doubles are finite ones. -/
def Legible : Json → Prop
  | .whole n => (Nat.toDigits 10 n.natAbs).length ≤ maxDigits
  | .double (.finite _ q) => Double.Representable q
  | .double _ => False
  | .text s => Text.Unsplit s.toList
  | .array items => AllLegible items
  | .object entries => EntriesLegible entries
  | _ => True

/-- Several documents can be read back. -/
def AllLegible : List Json → Prop
  | [] => True
  | item :: rest => Legible item ∧ AllLegible rest

/-- Entries can be read back, their keys too. -/
def EntriesLegible : List (String × Json) → Prop
  | [] => True
  | (key, item) :: rest => Text.Unsplit key.toList ∧ Legible item ∧ EntriesLegible rest

end

/-! ## White space -/

theorem skipSpace_append {blank rest : List Char} (all : ∀ c ∈ blank, isSpace c = true) :
    skipSpace (blank ++ rest) = skipSpace rest := by
  unfold skipSpace
  exact List.dropWhile_append_of_pos all

theorem skipSpace_cons {c : Char} (rest : List Char) (solid : isSpace c = false) :
    skipSpace (c :: rest) = c :: rest := by
  unfold skipSpace
  rw [List.dropWhile_cons_of_neg (by simp [solid])]

namespace Layout

/-- A layout indents by white space. -/
def Blank (layout : Layout) : Prop :=
  ∀ unit ∈ layout.unit?, ∀ c ∈ unit.toList, isSpace c = true

variable {layout : Layout}

theorem Blank.line (blank : layout.Blank) (depth : Nat) :
    ∀ c ∈ layout.line depth, isSpace c = true := by
  unfold Layout.line
  cases unit : layout.unit? with
  | none => simp
  | some text =>
      refine List.forall_mem_cons.mpr ⟨rfl, ?_⟩
      intro c held
      obtain ⟨chars, repeated, inside⟩ := List.mem_flatten.mp held
      rw [List.eq_of_mem_replicate repeated] at inside
      exact blank text unit c inside

/-- A comma is followed by white space. -/
theorem Blank.comma (blank : layout.Blank) (depth : Nat) :
    ∃ gap, layout.comma depth = ',' :: gap ∧ ∀ c ∈ gap, isSpace c = true := by
  unfold Layout.comma
  cases layout.unit? with
  | none => exact ⟨[' '], rfl, List.forall_mem_singleton.mpr rfl⟩
  | some text => exact ⟨_, rfl, blank.line depth⟩

end Layout

/-! ## First characters -/

/-- A text begins with a character that neither is white space nor closes anything. -/
def Opens (chars : List Char) : Prop :=
  ∃ c rest, chars = c :: rest ∧ isSpace c = false ∧ c ≠ ']' ∧ c ≠ '\x7d'

theorem Opens.skipSpace {chars : List Char} (opens : Opens chars) :
    Json.skipSpace chars = chars := by
  obtain ⟨c, rest, rfl, solid, -⟩ := opens
  exact skipSpace_cons rest solid

theorem Opens.append {chars : List Char} (opens : Opens chars) (rest : List Char) :
    Opens (chars ++ rest) := by
  obtain ⟨c, others, rfl, solid⟩ := opens
  exact ⟨c, others ++ rest, rfl, solid⟩

theorem Numeral.opens {chars : List Char} (numeral : Numeral chars) : Opens chars := by
  obtain ⟨negative, c, rest, digit, rfl⟩ := numeral
  cases negative with
  | true => exact ⟨'-', c :: rest, rfl, rfl, by decide, by decide⟩
  | false =>
      refine ⟨c, rest, rfl, ?_, ?_, ?_⟩
      · cases space : isSpace c with
        | false => rfl
        | true =>
            simp only [isSpace, Bool.or_eq_true, beq_iff_eq] at space
            rcases space with ((rfl | rfl) | rfl) | rfl <;> cases digit
      · rintro rfl
        cases digit
      · rintro rfl
        cases digit

/-- The text of a document opens a value. -/
theorem write_opens {json : Json} (legible : json.Legible) (layout : Layout) (depth : Nat) :
    Opens (write layout depth json) := by
  cases json with
  | null => exact ⟨'n', ['u', 'l', 'l'], rfl, rfl, by decide, by decide⟩
  | bool b =>
      cases b with
      | true => exact ⟨'t', ['r', 'u', 'e'], rfl, rfl, by decide, by decide⟩
      | false => exact ⟨'f', ['a', 'l', 's', 'e'], rfl, rfl, by decide, by decide⟩
  | whole n =>
      have opens := (numeral_whole n []).opens
      rwa [List.append_nil] at opens
  | double d =>
      cases d with
      | finite negative q =>
          have opens := (numeral_double negative legible .nil).opens
          rwa [List.append_nil] at opens
      | _ => cases legible
  | text s => exact ⟨'"', _, rfl, rfl, by decide, by decide⟩
  | array items =>
      cases items with
      | nil => exact ⟨'[', _, rfl, rfl, by decide, by decide⟩
      | cons item rest => exact ⟨'[', _, rfl, rfl, by decide, by decide⟩
  | object entries =>
      rcases entries with - | ⟨⟨key, item⟩, rest⟩
      · exact ⟨'\x7b', _, rfl, rfl, by decide, by decide⟩
      · exact ⟨'\x7b', _, rfl, rfl, by decide, by decide⟩

section Reading

variable {α ε : Type} {maker : Maker α ε} {layout : Layout}

/-- The texts of the items of a list, one after another. -/
def writeRow (layout : Layout) (depth : Nat) : List Json → List Char
  | [] => []
  | item :: rest => write layout depth item ++ writeItems layout depth rest

/-- The texts of the entries of an object, one after another. -/
def writePairs (layout : Layout) (depth : Nat) : List (String × Json) → List Char
  | [] => []
  | (key, item) :: rest =>
    writeString key ++ ':' :: ' ' :: write layout depth item ++ writeEntries layout depth rest

theorem writeRow_opens {items : List Json} (legible : AllLegible items) (some : items ≠ [])
    (layout : Layout) (depth : Nat) : Opens (writeRow layout depth items) := by
  cases items with
  | nil => exact absurd rfl some
  | cons item rest => exact (write_opens legible.1 layout depth).append _

theorem writePairs_opens {entries : List (String × Json)} (some : entries ≠ []) (layout : Layout)
    (depth : Nat) : Opens (writePairs layout depth entries) := by
  rcases entries with - | ⟨⟨key, item⟩, rest⟩
  · exact absurd rfl some
  · exact ⟨'"', _, rfl, rfl, by decide, by decide⟩

/-- A value that is neither a string nor a container is a word or a number. -/
theorem readValue_scalar {c : Char} {rest : List Char} {read : α × List Char} (quote : c ≠ '"')
    (list : c ≠ '[') (object : c ≠ '\x7b') (scalar : readScalar maker (c :: rest) = some read)
    (fuel : Nat) : readValue maker (fuel + 1) (c :: rest) = .ok read := by
  simp [readValue, quote, list, object, scalar]

theorem Numeral.readValue {chars : List Char} (numeral : Numeral chars) {read : α × List Char}
    (scalar : readNumber maker chars = some read) (fuel : Nat) :
    Json.readValue maker (fuel + 1) chars = .ok read := by
  rw [← numeral.readScalar maker] at scalar
  obtain ⟨negative, c, rest, digit, rfl⟩ := numeral
  cases negative with
  | true => exact readValue_scalar (by decide) (by decide) (by decide) scalar fuel
  | false =>
      have other : ∀ mark : Char, mark.isDigit = false → c ≠ mark := by
        rintro mark none rfl
        rw [digit] at none
        cases none
      exact readValue_scalar (other _ rfl) (other _ rfl) (other _ rfl) scalar fuel

/-- A string is read up to the quote that closes it. -/
theorem readValue_string {s : String} (unsplit : Text.Unsplit s.toList) (rest : List Char)
    (fuel : Nat) :
    readValue maker (fuel + 1) (writeString s ++ rest) = .ok (maker.text s, rest) := by
  have read := readString_written unsplit rest
  unfold writeString
  rw [List.cons_append, List.cons_append]
  simp only [readValue, read, String.ofList_toList]

/-! ## Steps of reading containers -/

section

variable {chars opened : List Char}

/-- What is between brackets is read when there is something between them. -/
theorem readValue_bracket (skipped : skipSpace chars = opened)
    (opens : Opens opened) (fuel : Nat) :
    readValue maker (fuel + 1) ('[' :: chars) = (do
      let (items, rest) ← readItems maker fuel opened
      return (maker.array items, rest)) := by
  obtain ⟨c, others, rfl, -, bracket, -⟩ := opens
  simp [readValue, skipped, bracket]

/-- What is between braces is read when there is something between them, and may be refused. -/
theorem readValue_brace (skipped : skipSpace chars = opened)
    (opens : Opens opened) (fuel : Nat) :
    readValue maker (fuel + 1) ('\x7b' :: chars) = (do
      let (entries, rest) ← readEntries maker fuel opened
      match maker.object entries with
      | .ok a => return (a, rest)
      | .error e => throw (.rejected e)) := by
  obtain ⟨c, others, rfl, -, -, brace⟩ := opens
  simp only [readValue, skipped]
  split
  · rename_i same
    exact absurd (List.cons.inj same).1 brace
  · rfl

theorem readValue_list {rest : List Char} {made : List α} {fuel : Nat}
    (skipped : skipSpace chars = opened) (opens : Opens opened)
    (read : readItems maker fuel opened = .ok (made, rest)) :
    readValue maker (fuel + 1) ('[' :: chars) = .ok (maker.array made, rest) := by
  rw [readValue_bracket skipped opens, read]
  rfl

theorem readValue_object {rest : List Char} {made : List (String × α)} {a : α}
    {fuel : Nat} (skipped : skipSpace chars = opened) (opens : Opens opened)
    (read : readEntries maker fuel opened = .ok (made, rest)) (kept : maker.object made = .ok a) :
    readValue maker (fuel + 1) ('\x7b' :: chars) = .ok (a, rest) := by
  rw [readValue_brace skipped opens, read]
  simp only [Bind.bind, Except.bind, kept]
  rfl

end

theorem readItems_last {chars after rest : List Char} {a : α} {fuel : Nat}
    (read : readValue maker fuel chars = .ok (a, after)) (closed : skipSpace after = ']' :: rest) :
    readItems maker (fuel + 1) chars = .ok ([a], rest) := by
  simp [readItems, read, closed, Bind.bind, Except.bind, pure, Except.pure]

theorem readItems_next {chars after more rest : List Char} {a : α} {others : List α} {fuel : Nat}
    (read : readValue maker fuel chars = .ok (a, after)) (comma : skipSpace after = ',' :: more)
    (readMore : readItems maker fuel (skipSpace more) = .ok (others, rest)) :
    readItems maker (fuel + 1) chars = .ok (a :: others, rest) := by
  simp [readItems, read, comma, readMore, Bind.bind, Except.bind, pure, Except.pure]

/-- A key is read up to the value after it. -/
theorem readEntries_keyed {chars after more start s : List Char}
    (named : readString chars = some (s, after)) (colon : skipSpace after = ':' :: more)
    (opened : skipSpace more = start) (fuel : Nat) :
    readEntries maker (fuel + 1) ('"' :: chars) = (do
      let (a, rest) ← readValue maker fuel start
      match skipSpace rest with
      | '\x7d' :: rest => return ([(String.ofList s, a)], rest)
      | ',' :: rest =>
        let (entries, rest) ← readEntries maker fuel (skipSpace rest)
        return ((String.ofList s, a) :: entries, rest)
      | _ => throw .malformed) := by
  have unfolded := readEntries.eq_def maker (fuel + 1) ('"' :: chars)
  simp only [named, colon, opened] at unfolded
  exact unfolded

section Entries

variable {key : String} {chars after rest : List Char} {a : α} {fuel : Nat}

/-- An entry is read up to the end of its value. -/
theorem readEntries_step (unsplit : Text.Unsplit key.toList) (opens : Opens chars)
    (read : readValue maker fuel chars = .ok (a, after)) :
    readEntries maker (fuel + 1) (writeString key ++ ':' :: ' ' :: chars) =
      match skipSpace after with
      | '\x7d' :: rest => .ok ([(key, a)], rest)
      | ',' :: rest => do
        let (entries, rest) ← readEntries maker fuel (skipSpace rest)
        return ((key, a) :: entries, rest)
      | _ => .error .malformed := by
  have named := readString_written unsplit (':' :: ' ' :: chars)
  have blank : skipSpace (' ' :: chars) = chars := opens.skipSpace
  unfold writeString
  rw [List.cons_append, List.cons_append, readEntries_keyed named rfl blank, read,
    String.ofList_toList]
  rfl

theorem readEntries_last (unsplit : Text.Unsplit key.toList) (opens : Opens chars)
    (read : readValue maker fuel chars = .ok (a, after))
    (closed : skipSpace after = '\x7d' :: rest) :
    readEntries maker (fuel + 1) (writeString key ++ ':' :: ' ' :: chars) =
      .ok ([(key, a)], rest) := by
  rw [readEntries_step unsplit opens read, closed]
  rfl

theorem readEntries_next (unsplit : Text.Unsplit key.toList) (opens : Opens chars)
    (read : readValue maker fuel chars = .ok (a, after)) {more : List Char}
    {others : List (String × α)} (comma : skipSpace after = ',' :: more)
    (readMore : readEntries maker fuel (skipSpace more) = .ok (others, rest)) :
    readEntries maker (fuel + 1) (writeString key ++ ':' :: ' ' :: chars) =
      .ok ((key, a) :: others, rest) := by
  rw [readEntries_step unsplit opens read, comma]
  simp [readMore, Bind.bind, Except.bind, pure, Except.pure]

end Entries

/-- The line break before a closing mark ends a number. -/
theorem stops_line (layout : Layout) (depth : Nat) {mark : Char}
    (closing : mark.isDigit = false ∧ mark ≠ '.' ∧ mark ≠ 'e' ∧ mark ≠ 'E') (rest : List Char) :
    Stops (layout.line depth ++ mark :: rest) := by
  unfold Layout.line
  intro c first
  cases unit : layout.unit? with
  | none =>
      rw [unit] at first
      cases first
      exact closing
  | some text =>
      rw [unit] at first
      cases first
      decide

theorem stops_comma (rest : List Char) : Stops (',' :: rest) := by
  intro c first
  cases first
  decide

mutual

theorem readValue_write (blank : layout.Blank) {json : Json} (legible : json.Legible) {a : α}
    (built : json.build maker = .ok a) {fuel depth : Nat} {rest : List Char} (stops : Stops rest)
    (enough : 2 * (write layout depth json).length ≤ fuel) :
    readValue maker fuel (write layout depth json ++ rest) = .ok (a, rest) := by
  obtain ⟨fuel, rfl⟩ : ∃ less, fuel = less + 1 := by
    obtain ⟨c, others, text, -⟩ := write_opens legible layout depth
    rw [text, List.length_cons] at enough
    exact ⟨fuel - 1, by omega⟩
  cases json with
  | null =>
      cases built
      exact @readValue_scalar _ _ maker 'n' _ _ (by decide) (by decide) (by decide) rfl fuel
  | bool b =>
      cases built
      cases b with
      | true =>
          exact @readValue_scalar _ _ maker 't' _ _ (by decide) (by decide) (by decide) rfl fuel
      | false =>
          exact @readValue_scalar _ _ maker 'f' _ _ (by decide) (by decide) (by decide) rfl fuel
  | whole n =>
      cases built
      exact (numeral_whole n rest).readValue (readNumber_whole maker legible stops) fuel
  | double d =>
      cases built
      cases d with
      | finite negative q =>
          exact (numeral_double negative legible stops).readValue
            (readNumber_double maker negative legible stops) fuel
      | _ => cases legible
  | text s =>
      cases built
      exact readValue_string legible rest fuel
  | array items =>
      obtain ⟨made, foundAll, finished⟩ := Outcome.bind_eq_ok.mp built
      cases finished
      cases items with
      | nil =>
          cases foundAll
          rfl
      | cons item others =>
          have text : write layout depth (.array (item :: others)) ++ rest =
              '[' :: (layout.line (depth + 1) ++ (writeRow layout (depth + 1) (item :: others) ++
                (layout.line depth ++ ']' :: rest))) := by
            simp [write, writeRow]
          have length : (write layout depth (.array (item :: others))).length =
              (layout.line (depth + 1)).length +
                (writeRow layout (depth + 1) (item :: others)).length +
                  (layout.line depth).length + 2 := by
            simp [write, writeRow]
            omega
          have opens := writeRow_opens legible (List.cons_ne_nil item others) layout (depth + 1)
          have read : readItems maker fuel (writeRow layout (depth + 1) (item :: others) ++
              (layout.line depth ++ ']' :: rest)) = .ok (made, rest) :=
            readItems_write blank (List.cons_ne_nil _ _) legible foundAll (by omega)
          rw [text]
          refine readValue_list ?_ (opens.append _) read
          rw [skipSpace_append (blank.line _), (opens.append _).skipSpace]
  | object entries =>
      obtain ⟨made, foundAll, kept⟩ := Outcome.bind_eq_ok.mp built
      rcases entries with - | ⟨⟨key, item⟩, others⟩
      · cases foundAll
        show readValue maker (fuel + 1) ('\x7b' :: '\x7d' :: rest) = _
        have closed : skipSpace ('\x7d' :: rest) = '\x7d' :: rest := rfl
        simp only [readValue, closed, kept]
      · have text : write layout depth (.object ((key, item) :: others)) ++ rest =
            '\x7b' :: (layout.line (depth + 1) ++
              (writePairs layout (depth + 1) ((key, item) :: others) ++
                (layout.line depth ++ '\x7d' :: rest))) := by
          simp [write, writePairs]
        have length : (write layout depth (.object ((key, item) :: others))).length =
            (layout.line (depth + 1)).length +
              (writePairs layout (depth + 1) ((key, item) :: others)).length +
                (layout.line depth).length + 2 := by
          simp [write, writePairs]
          omega
        have opens := writePairs_opens (List.cons_ne_nil (key, item) others) layout (depth + 1)
        have read : readEntries maker fuel (writePairs layout (depth + 1) ((key, item) :: others) ++
            (layout.line depth ++ '\x7d' :: rest)) = .ok (made, rest) :=
          readEntries_write blank (List.cons_ne_nil (key, item) others) legible foundAll (by omega)
        rw [text]
        refine readValue_object ?_ (opens.append _) read kept
        rw [skipSpace_append (blank.line _), (opens.append _).skipSpace]

theorem readItems_write (blank : layout.Blank) {items : List Json} (some : items ≠ [])
    (legible : AllLegible items) {made : List α} (built : buildItems maker items = .ok made)
    {fuel depth outside : Nat} {rest : List Char}
    (enough : 2 * (writeRow layout depth items).length + 1 ≤ fuel) :
    readItems maker fuel (writeRow layout depth items ++ (layout.line outside ++ ']' :: rest)) =
      .ok (made, rest) := by
  cases items with
  | nil => exact absurd rfl some
  | cons item others =>
      obtain ⟨fuel, rfl⟩ : ∃ less, fuel = less + 1 := ⟨fuel - 1, by omega⟩
      obtain ⟨a, found, more⟩ := Outcome.bind_eq_ok.mp built
      obtain ⟨rest', foundAll, finished⟩ := Outcome.bind_eq_ok.mp more
      cases finished
      cases others with
      | nil =>
          cases foundAll
          simp only [writeRow, writeItems, List.append_nil] at enough ⊢
          refine readItems_last
            (readValue_write blank legible.1 found (stops_line layout outside (by decide) rest)
              (by omega)) ?_
          rw [skipSpace_append (blank.line _)]
          rfl
      | cons next later =>
          obtain ⟨gap, comma, blanks⟩ := blank.comma depth
          have after : writeItems layout depth (next :: later) ++
              (layout.line outside ++ ']' :: rest) =
                ',' :: (gap ++ (writeRow layout depth (next :: later) ++
                  (layout.line outside ++ ']' :: rest))) := by
            simp [writeItems, writeRow, comma]
          have length : (writeRow layout depth (item :: next :: later)).length =
              (write layout depth item).length + gap.length + 1 +
                (writeRow layout depth (next :: later)).length := by
            simp [writeRow, writeItems, comma]
            omega
          have read : readItems maker fuel (writeRow layout depth (next :: later) ++
              (layout.line outside ++ ']' :: rest)) = .ok (rest', rest) :=
            readItems_write blank (List.cons_ne_nil _ _) legible.2 foundAll (by omega)
          have opens := writeRow_opens legible.2 (List.cons_ne_nil next later) layout depth
          rw [writeRow, List.append_assoc, after]
          refine readItems_next
            (readValue_write blank legible.1 found (stops_comma _) (by omega)) rfl ?_
          rwa [skipSpace_append blanks, (opens.append _).skipSpace]

theorem readEntries_write (blank : layout.Blank) {entries : List (String × Json)}
    (some : entries ≠ []) (legible : EntriesLegible entries) {made : List (String × α)}
    (built : buildEntries maker entries = .ok made) {fuel depth outside : Nat} {rest : List Char}
    (enough : 2 * (writePairs layout depth entries).length + 1 ≤ fuel) :
    readEntries maker fuel
        (writePairs layout depth entries ++ (layout.line outside ++ '\x7d' :: rest)) =
      .ok (made, rest) := by
  rcases entries with - | ⟨⟨key, item⟩, others⟩
  · exact absurd rfl some
  · obtain ⟨fuel, rfl⟩ : ∃ less, fuel = less + 1 := ⟨fuel - 1, by omega⟩
    obtain ⟨a, found, more⟩ := Outcome.bind_eq_ok.mp built
    obtain ⟨rest', foundAll, finished⟩ := Outcome.bind_eq_ok.mp more
    cases finished
    obtain ⟨unsplit, legibleItem, legibleRest⟩ := legible
    have opens := write_opens legibleItem layout depth
    rcases others with - | ⟨⟨next, following⟩, later⟩
    · cases foundAll
      have text : writePairs layout depth [(key, item)] ++ (layout.line outside ++ '\x7d' :: rest) =
          writeString key ++ ':' :: ' ' :: (write layout depth item ++
            (layout.line outside ++ '\x7d' :: rest)) := by
        simp [writePairs, writeEntries]
      have length : (write layout depth item).length <
          (writePairs layout depth [(key, item)]).length := by
        simp [writePairs, writeEntries]
        omega
      rw [text]
      refine readEntries_last unsplit (opens.append _)
        (readValue_write blank legibleItem found (stops_line layout outside (by decide) rest)
          (by omega)) ?_
      rw [skipSpace_append (blank.line _)]
      rfl
    · obtain ⟨gap, comma, blanks⟩ := blank.comma depth
      have text : writePairs layout depth ((key, item) :: (next, following) :: later) ++
          (layout.line outside ++ '\x7d' :: rest) =
            writeString key ++ ':' :: ' ' :: (write layout depth item ++ ',' :: (gap ++
              (writePairs layout depth ((next, following) :: later) ++
                (layout.line outside ++ '\x7d' :: rest)))) := by
        simp [writePairs, writeEntries, comma]
      have length : (write layout depth item).length + 1 +
          (writePairs layout depth ((next, following) :: later)).length <
            (writePairs layout depth ((key, item) :: (next, following) :: later)).length := by
        simp [writePairs, writeEntries, comma]
        omega
      have read : readEntries maker fuel (writePairs layout depth ((next, following) :: later) ++
          (layout.line outside ++ '\x7d' :: rest)) = .ok (rest', rest) :=
        readEntries_write blank (List.cons_ne_nil (next, following) later) legibleRest foundAll
          (by omega)
      have opensNext := writePairs_opens (List.cons_ne_nil (next, following) later) layout depth
      rw [text]
      refine readEntries_next unsplit (opens.append _)
        (readValue_write blank legibleItem found (stops_comma _) (by omega)) rfl ?_
      rwa [skipSpace_append blanks, (opensNext.append _).skipSpace]

end

/-- White space does not go on with a number. -/
theorem stops_blank {blank : List Char} (all : ∀ c ∈ blank, isSpace c = true) : Stops blank := by
  intro c first
  have space := all c (List.mem_of_mem_head? first)
  simp only [isSpace, Bool.or_eq_true, beq_iff_eq] at space
  rcases space with ((rfl | rfl) | rfl) | rfl <;> decide

/-- A document that can be read back is read from its text, with white space after it, as what
the reader makes of it. -/
theorem read_print (blank : layout.Blank) {json : Json} (legible : json.Legible) {a : α}
    (built : json.build maker = .ok a) {trail : String}
    (trailing : ∀ c ∈ trail.toList, isSpace c = true) :
    read maker (json.print layout ++ trail) = .ok a := by
  have opens := (write_opens legible layout 0).append trail.toList
  have text : (json.print layout ++ trail).toList = write layout 0 json ++ trail.toList := by
    rw [String.toList_append, print, String.toList_ofList]
  have value : readValue maker (2 * (write layout 0 json ++ trail.toList).length + 2)
      (write layout 0 json ++ trail.toList) = .ok (a, trail.toList) := by
    refine readValue_write blank legible built (stops_blank trailing) ?_
    rw [List.length_append]
    omega
  have ended : skipSpace trail.toList = [] := by
    rw [← List.append_nil trail.toList, skipSpace_append trailing]
    rfl
  unfold read
  simp only [text, opens.skipSpace, value, ended, Bind.bind, Except.bind]
  rfl

end Reading

end Json

end SearchQuery
