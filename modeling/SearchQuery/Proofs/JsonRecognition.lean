import SearchQuery.Proofs.JsonTokens

/-!
# Well-formed texts are recognized

A text is read exactly when it is well formed and everything in it is valid,
and it ends in the refusal of an object exactly when that object ends before
anything else is wrong.  One direction goes along the grammar, with fuel for
twice the length of what is left; the other goes along the fuel.
-/

namespace SearchQuery

namespace Json

/-! ## First characters -/

theorem Numeric.numeral {json : Json} {text : List Char} (numeric : Numeric json text)
    (rest : List Char) : Numeral (text ++ rest) := by
  cases numeric with
  | whole negative integral =>
      rw [signed_append]
      exact numeral_of_digits negative integral.some integral.all rest
  | double negative integral fractional scaled proper =>
      rw [signed_append, List.append_assoc, List.append_assoc]
      exact numeral_of_digits negative integral.some integral.all _

theorem Formed.opens {chars rest : List Char} {json : Json} (formed : Formed chars json rest) :
    Opens chars := by
  cases formed with
  | null => exact ⟨'n', _, rfl, rfl, by decide, by decide⟩
  | true => exact ⟨'t', _, rfl, rfl, by decide, by decide⟩
  | false => exact ⟨'f', _, rfl, rfl, by decide, by decide⟩
  | notNumber => exact ⟨'N', _, rfl, rfl, by decide, by decide⟩
  | infinite negative =>
      cases negative with
      | true => exact ⟨'-', _, rfl, rfl, by decide, by decide⟩
      | false => exact ⟨'I', _, rfl, rfl, by decide, by decide⟩
  | number numeric => exact (numeric.numeral rest).opens
  | text => exact ⟨'"', _, rfl, rfl, by decide, by decide⟩
  | emptyArray => exact ⟨'[', _, rfl, rfl, by decide, by decide⟩
  | array => exact ⟨'[', _, rfl, rfl, by decide, by decide⟩
  | emptyObject => exact ⟨'\x7b', _, rfl, rfl, by decide, by decide⟩
  | object => exact ⟨'\x7b', _, rfl, rfl, by decide, by decide⟩

theorem FormedItems.opens {chars rest : List Char} {items : List Json}
    (formed : FormedItems chars items rest) : Opens chars := by
  cases formed with
  | last formed closed => exact formed.opens
  | next formed comma opened inside => exact formed.opens

theorem Named.opens {chars start : List Char} {key : String} (named : Named chars key start) :
    Opens chars := by
  cases named
  exact ⟨'"', _, rfl, rfl, by decide, by decide⟩

theorem FormedEntries.opens {chars rest : List Char} {entries : List (String × Json)}
    (formed : FormedEntries chars entries rest) : Opens chars := by
  cases formed with
  | last named formed closed => exact named.opens
  | next named formed comma opened inside => exact named.opens

/-! ## Lengths -/

theorem Marks.length_le {chars rest : List Char} {marks : List Mark}
    (marked : Marks chars marks rest) : rest.length ≤ chars.length := by
  induction marked <;> simp only [List.length_cons] <;> omega

theorem Named.length_lt {chars start : List Char} {key : String} (named : Named chars key start) :
    start.length < chars.length := by
  cases named with
  | key marked colon opened =>
      have inside := marked.length_le
      have before := colon.length_le
      have after := opened.length_le
      simp only [List.length_cons] at before ⊢
      omega

mutual

theorem Formed.length_le {chars rest : List Char} {json : Json} :
    Formed chars json rest → rest.length ≤ chars.length
  | .null rest | .true rest | .false rest | .notNumber rest => by
      simp only [List.length_cons]
      omega
  | .infinite negative rest => by
      cases negative <;> simp [signed] <;> omega
  | .number numeric rest => by simp
  | .text marked => Nat.le_succ_of_le marked.length_le
  | .emptyArray closed | .emptyObject closed => by
      have inside := closed.length_le
      simp only [List.length_cons] at inside ⊢
      omega
  | .array opened inside => Nat.le_succ_of_le (inside.length_le.trans opened.length_le)
  | .object opened inside => Nat.le_succ_of_le (inside.length_le.trans opened.length_le)

theorem FormedItems.length_le {chars rest : List Char} {items : List Json} :
    FormedItems chars items rest → rest.length ≤ chars.length
  | .last formed closed => by
      have inside := formed.length_le
      have after := closed.length_le
      simp only [List.length_cons] at after
      omega
  | .next formed comma opened inside => by
      have first := formed.length_le
      have after := comma.length_le
      have gap := opened.length_le
      have others := inside.length_le
      simp only [List.length_cons] at after
      omega

theorem FormedEntries.length_le {chars rest : List Char} {entries : List (String × Json)} :
    FormedEntries chars entries rest → rest.length ≤ chars.length
  | .last named formed closed => by
      have key := named.length_lt
      have inside := formed.length_le
      have after := closed.length_le
      simp only [List.length_cons] at after
      omega
  | .next named formed comma opened inside => by
      have key := named.length_lt
      have first := formed.length_le
      have after := comma.length_le
      have gap := opened.length_le
      have others := inside.length_le
      simp only [List.length_cons] at after
      omega

end

/-- What follows the comma after a document is shorter. -/
theorem Formed.next_length_lt {chars after more start : List Char} {json : Json}
    (formed : Formed chars json after) (comma : Blank after (',' :: more))
    (opened : Blank more start) : start.length < chars.length := by
  have before := formed.length_le
  have mark := comma.length_le
  have gap := opened.length_le
  rw [List.length_cons] at mark
  omega

/-- There is fuel for a text that begins with something. -/
theorem Opens.exists_fuel {chars : List Char} {fuel : Nat} (opens : Opens chars)
    (enough : 2 * chars.length ≤ fuel) : ∃ less, fuel = less + 1 := by
  obtain ⟨c, others, rfl, -⟩ := opens
  rw [List.length_cons] at enough
  exact ⟨fuel - 1, by omega⟩

section

variable {α ε : Type} {maker : Maker α ε}

/-! ## Reading what is well formed -/

theorem stops_bracket {rest : List Char} : Stops (']' :: rest) := by
  rintro c ⟨⟩
  decide

theorem stops_brace {rest : List Char} : Stops ('\x7d' :: rest) := by
  rintro c ⟨⟩
  decide

/-- A key is read up to the value after it. -/
theorem Named.read {chars start : List Char} {key : String} (named : Named chars key start)
    (opens : Opens start) (fuel : Nat) :
    readEntries maker (fuel + 1) chars = (do
      let (a, rest) ← readValue maker fuel start
      match skipSpace rest with
      | '\x7d' :: rest => return ([(key, a)], rest)
      | ',' :: rest =>
        let (entries, rest) ← readEntries maker fuel (skipSpace rest)
        return ((key, a) :: entries, rest)
      | _ => throw .malformed) := by
  cases named with
  | key marked colon opened =>
      exact readEntries_keyed marked.read (colon.skipSpace_eq rfl) (opened.skipSpace_opens opens)
        fuel

mutual

/-- A document that is valid is read up to its end, where no number goes on. -/
theorem Formed.read {chars rest : List Char} {json : Json} {a : α} {fuel : Nat}
    (valid : Valid maker json a) (stops : Stops rest) (enough : 2 * chars.length ≤ fuel)
    (formed : Formed chars json rest) : readValue maker fuel chars = .ok (a, rest) := by
  obtain ⟨fuel, rfl⟩ := formed.opens.exists_fuel enough
  match formed with
  | .null rest =>
      cases valid.built
      exact @readValue_scalar _ _ maker 'n' _ _ (by decide) (by decide) (by decide) rfl fuel
  | .true rest =>
      cases valid.built
      exact @readValue_scalar _ _ maker 't' _ _ (by decide) (by decide) (by decide) rfl fuel
  | .false rest =>
      cases valid.built
      exact @readValue_scalar _ _ maker 'f' _ _ (by decide) (by decide) (by decide) rfl fuel
  | .notNumber rest =>
      cases valid.built
      exact @readValue_scalar _ _ maker 'N' _ _ (by decide) (by decide) (by decide) rfl fuel
  | .infinite true rest =>
      cases valid.built
      exact @readValue_scalar _ _ maker '-' _ _ (by decide) (by decide) (by decide) rfl fuel
  | .infinite false rest =>
      cases valid.built
      exact @readValue_scalar _ _ maker 'I' _ _ (by decide) (by decide) (by decide) rfl fuel
  | .number numeric rest => exact (numeric.numeral rest).readValue (numeric.read valid stops) fuel
  | .text marked =>
      cases valid.built
      simp only [readValue, readString, marked.read]
  | .emptyArray closed =>
      obtain ⟨made, inside, rfl⟩ := valid_array_iff.mp valid
      cases allValid_nil_iff.mp inside
      simp only [readValue, closed.skipSpace_eq rfl]
  | .array opened items =>
      obtain ⟨made, inside, rfl⟩ := valid_array_iff.mp valid
      have shorter := opened.length_le
      rw [List.length_cons] at enough
      exact readValue_list (opened.skipSpace_opens items.opens) items.opens
        (items.read inside (by omega))
  | .emptyObject closed =>
      obtain ⟨made, inside, kept⟩ := valid_object_iff.mp valid
      cases entriesValid_nil_iff.mp inside
      simp only [readValue, closed.skipSpace_eq rfl, kept]
  | .object opened entries =>
      obtain ⟨made, inside, kept⟩ := valid_object_iff.mp valid
      have shorter := opened.length_le
      rw [List.length_cons] at enough
      exact readValue_object (opened.skipSpace_opens entries.opens) entries.opens
        (entries.read inside (by omega)) kept

theorem FormedItems.read {chars rest : List Char} {items : List Json} {made : List α} {fuel : Nat}
    (valid : AllValid maker items made) (enough : 2 * chars.length + 1 ≤ fuel)
    (formed : FormedItems chars items rest) : readItems maker fuel chars = .ok (made, rest) := by
  obtain ⟨fuel, rfl⟩ : ∃ less, fuel = less + 1 := ⟨fuel - 1, by omega⟩
  match formed with
  | .last item closed =>
      obtain ⟨a, others, first, none, rfl⟩ := allValid_cons_iff.mp valid
      cases allValid_nil_iff.mp none
      have stops : Stops _ := closed.stops stops_bracket
      exact readItems_last (item.read first stops (by omega)) (closed.skipSpace_eq rfl)
  | .next item comma opened inside =>
      obtain ⟨a, others, first, later, rfl⟩ := allValid_cons_iff.mp valid
      have shorter := item.next_length_lt comma opened
      refine readItems_next (item.read first (comma.stops (stops_comma _)) (by omega))
        (comma.skipSpace_eq rfl) ?_
      rw [opened.skipSpace_opens inside.opens]
      exact inside.read later (by omega)

theorem FormedEntries.read {chars rest : List Char} {entries : List (String × Json)}
    {made : List (String × α)} {fuel : Nat} (valid : EntriesValid maker entries made)
    (enough : 2 * chars.length + 1 ≤ fuel) (formed : FormedEntries chars entries rest) :
    readEntries maker fuel chars = .ok (made, rest) := by
  obtain ⟨fuel, rfl⟩ : ∃ less, fuel = less + 1 := ⟨fuel - 1, by omega⟩
  match formed with
  | .last named item closed =>
      obtain ⟨a, others, first, none, rfl⟩ := entriesValid_cons_iff.mp valid
      cases entriesValid_nil_iff.mp none
      have shorter := named.length_lt
      rw [named.read item.opens, item.read first (closed.stops stops_brace) (by omega)]
      simp [Bind.bind, Except.bind, closed.skipSpace_eq rfl, pure, Except.pure]
  | .next named item comma opened inside =>
      obtain ⟨a, others, first, later, rfl⟩ := entriesValid_cons_iff.mp valid
      have short := named.length_lt
      have shorter := item.next_length_lt comma opened
      have readMore : readEntries maker fuel _ = .ok (others, rest) := inside.read later (by omega)
      rw [named.read item.opens, item.read first (comma.stops (stops_comma _)) (by omega)]
      simp [Bind.bind, Except.bind, comma.skipSpace_eq rfl, opened.skipSpace_opens inside.opens,
        readMore, pure, Except.pure]

end

/-! ## Reading up to what is refused -/

section

variable {chars : List Char} {e : ε}

theorem Refused.opens (refused : Refused maker chars e) : Opens chars := by
  cases refused with
  | itself formed valid refused => exact formed.opens
  | item => exact ⟨'[', _, rfl, rfl, by decide, by decide⟩
  | entry => exact ⟨'\x7b', _, rfl, rfl, by decide, by decide⟩

theorem RefusedItem.opens (refused : RefusedItem maker chars e) : Opens chars := by
  cases refused with
  | here refused => exact refused.opens
  | later formed valid comma opened inside => exact formed.opens

theorem RefusedEntry.opens (refused : RefusedEntry maker chars e) : Opens chars := by
  cases refused with
  | here named refused => exact named.opens
  | later named formed valid comma opened inside => exact named.opens

end

mutual

/-- Reading stops at the object that is refused. -/
theorem Refused.read {chars : List Char} {e : ε} {fuel : Nat} (enough : 2 * chars.length ≤ fuel)
    (refused : Refused maker chars e) : readValue maker fuel chars = .error (.rejected e) := by
  obtain ⟨fuel, rfl⟩ := refused.opens.exists_fuel enough
  match refused with
  | .itself formed valid refused =>
      cases formed with
      | number numeric => cases numeric
      | emptyObject closed =>
          cases entriesValid_nil_iff.mp valid
          simp only [readValue, closed.skipSpace_eq rfl, refused]
      | object opened entries =>
          have shorter := opened.length_le
          rw [List.length_cons] at enough
          rw [readValue_brace (opened.skipSpace_opens entries.opens) entries.opens,
            entries.read valid (by omega)]
          simp only [Bind.bind, Except.bind, refused]
          rfl
  | .item opened inside =>
      have shorter := opened.length_le
      rw [List.length_cons] at enough
      rw [readValue_bracket (opened.skipSpace_opens inside.opens) inside.opens,
        inside.read (by omega)]
      rfl
  | .entry opened inside =>
      have shorter := opened.length_le
      rw [List.length_cons] at enough
      rw [readValue_brace (opened.skipSpace_opens inside.opens) inside.opens,
        inside.read (by omega)]
      rfl

theorem RefusedItem.read {chars : List Char} {e : ε} {fuel : Nat}
    (enough : 2 * chars.length + 1 ≤ fuel) (refused : RefusedItem maker chars e) :
    readItems maker fuel chars = .error (.rejected e) := by
  obtain ⟨fuel, rfl⟩ : ∃ less, fuel = less + 1 := ⟨fuel - 1, by omega⟩
  match refused with
  | .here refused =>
      have stopped : readValue maker fuel chars = .error (.rejected e) := refused.read (by omega)
      rw [readItems, stopped]
      rfl
  | .later item valid comma opened inside =>
      have shorter := item.next_length_lt comma opened
      have stopped : readItems maker fuel _ = .error (.rejected e) := inside.read (by omega)
      rw [readItems, item.read valid (comma.stops (stops_comma _)) (by omega)]
      simp [Bind.bind, Except.bind, comma.skipSpace_eq rfl, opened.skipSpace_opens inside.opens,
        stopped]

theorem RefusedEntry.read {chars : List Char} {e : ε} {fuel : Nat}
    (enough : 2 * chars.length + 1 ≤ fuel) (refused : RefusedEntry maker chars e) :
    readEntries maker fuel chars = .error (.rejected e) := by
  obtain ⟨fuel, rfl⟩ : ∃ less, fuel = less + 1 := ⟨fuel - 1, by omega⟩
  match refused with
  | .here named refused =>
      have shorter := named.length_lt
      rw [named.read refused.opens, refused.read (by omega)]
      rfl
  | .later named item valid comma opened inside =>
      have short := named.length_lt
      have shorter := item.next_length_lt comma opened
      have stopped : readEntries maker fuel _ = .error (.rejected e) := inside.read (by omega)
      rw [named.read item.opens, item.read valid (comma.stops (stops_comma _)) (by omega)]
      simp [Bind.bind, Except.bind, comma.skipSpace_eq rfl, opened.skipSpace_opens inside.opens,
        stopped]

end

/-! ## What reading comes to -/

/-- What reading comes to: something that is found, or an object that is refused; nothing is said
of a text that is not well formed. -/
def Accounts {β : Type} (outcome : Except (ReadError ε) β) (found : β → Prop)
    (refused : ε → Prop) : Prop :=
  match outcome with
  | .ok b => found b
  | .error (.rejected e) => refused e
  | .error .malformed => True

/-- Two steps of reading come to what the second makes of what the first found. -/
theorem Accounts.bind {β γ : Type} {first : Except (ReadError ε) β}
    {next : β → Except (ReadError ε) γ} {found : β → Prop} {foundNext : γ → Prop}
    {refused refusedNext : ε → Prop} (now : Accounts first found refused)
    (stopped : ∀ e, refused e → refusedNext e)
    (later : ∀ b, found b → Accounts (next b) foundNext refusedNext) :
    Accounts (first >>= next) foundNext refusedNext := by
  match first, now with
  | .ok b, held => exact later b held
  | .error (.rejected e), held => exact stopped e held
  | .error .malformed, _ => trivial

theorem exists_formed_scalar {chars : List Char} {read : α × List Char}
    (scalar : readScalar maker chars = some read) :
    ∃ json, Formed chars json read.2 ∧ Valid maker json read.1 := by
  rw [readScalar.eq_def] at scalar
  split at scalar
  · cases scalar
    exact ⟨_, .null _, trivial, rfl⟩
  · cases scalar
    exact ⟨_, .true _, trivial, rfl⟩
  · cases scalar
    exact ⟨_, .false _, trivial, rfl⟩
  · cases scalar
    exact ⟨_, .notNumber _, trivial, rfl⟩
  · cases scalar
    exact ⟨_, .infinite Bool.false _, trivial, rfl⟩
  · cases scalar
    exact ⟨_, .infinite Bool.true _, trivial, rfl⟩
  · obtain ⟨json, text, rfl, numeric, valid⟩ := exists_numeric scalar
    exact ⟨json, .number numeric _, valid⟩

-- Along the fuel.  White space is skipped as far as it goes, which the grammar allows.
mutual

theorem readValue_accounts (fuel : Nat) (chars : List Char) :
    Accounts (readValue maker fuel chars)
      (fun read => ∃ json, Formed chars json read.2 ∧ Valid maker json read.1)
      (Refused maker chars) := by
  cases fuel with
  | zero => trivial
  | succ fuel =>
  rw [readValue.eq_def]
  dsimp only
  split
  · -- a string
    split
    · rename_i string rest read
      obtain ⟨marks, marked, rfl⟩ := exists_marks read
      exact ⟨_, .text marked, trivial, rfl⟩
    · trivial
  · -- a list
    rename_i rest
    have opened := blank_skipSpace rest
    split
    · rename_i closed
      rw [closed] at opened
      exact ⟨_, .emptyArray opened, valid_array_iff.mpr ⟨[], allValid_nil_iff.mpr rfl, rfl⟩⟩
    · refine (readItems_accounts fuel (skipSpace rest)).bind
        (fun e stopped => .item opened stopped) ?_
      rintro ⟨made, after⟩ ⟨items, formed, valid⟩
      exact ⟨_, .array opened formed, valid_array_iff.mpr ⟨made, valid, rfl⟩⟩
  · -- an object
    rename_i rest
    have opened := blank_skipSpace rest
    split
    · rename_i closed
      rw [closed] at opened
      have none : EntriesValid maker [] [] := entriesValid_nil_iff.mpr rfl
      split
      · rename_i kept
        exact ⟨_, .emptyObject opened, valid_object_iff.mpr ⟨[], none, kept⟩⟩
      · rename_i refused
        exact .itself (.emptyObject opened) none refused
    · refine (readEntries_accounts fuel (skipSpace rest)).bind
        (fun e stopped => .entry opened stopped) ?_
      rintro ⟨made, after⟩ ⟨entries, formed, valid⟩
      dsimp only
      split
      · rename_i kept
        exact ⟨_, .object opened formed, valid_object_iff.mpr ⟨made, valid, kept⟩⟩
      · rename_i refused
        exact .itself (.object opened formed) valid refused
  · -- a word or a number
    split
    · rename_i read scalar
      exact exists_formed_scalar scalar
    · trivial

theorem readItems_accounts (fuel : Nat) (chars : List Char) :
    Accounts (readItems maker fuel chars)
      (fun read => ∃ items, FormedItems chars items read.2 ∧ AllValid maker items read.1)
      (RefusedItem maker chars) := by
  cases fuel with
  | zero => trivial
  | succ fuel =>
  rw [readItems.eq_def]
  dsimp only
  refine (readValue_accounts fuel chars).bind (fun e stopped => .here stopped) ?_
  rintro ⟨a, after⟩ ⟨item, formed, valid⟩
  have blank := blank_skipSpace after
  dsimp only
  split
  · rename_i closed
    rw [closed] at blank
    exact ⟨_, .last formed blank,
      allValid_cons_iff.mpr ⟨a, [], valid, allValid_nil_iff.mpr rfl, rfl⟩⟩
  · rename_i more comma
    rw [comma] at blank
    have opened := blank_skipSpace more
    refine (readItems_accounts fuel (skipSpace more)).bind
      (fun e stopped => .later formed valid blank opened stopped) ?_
    rintro ⟨made, rest⟩ ⟨items, inside, others⟩
    exact ⟨_, .next formed blank opened inside, allValid_cons_iff.mpr ⟨a, made, valid, others, rfl⟩⟩
  · trivial

theorem readEntries_accounts (fuel : Nat) (chars : List Char) :
    Accounts (readEntries maker fuel chars)
      (fun read => ∃ entries, FormedEntries chars entries read.2 ∧
        EntriesValid maker entries read.1)
      (RefusedEntry maker chars) := by
  cases fuel with
  | zero => trivial
  | succ fuel =>
  rw [readEntries.eq_def]
  dsimp only
  split
  · split
    · trivial
    · rename_i key after read
      obtain ⟨marks, marked, rfl⟩ := exists_marks read
      have colon := blank_skipSpace after
      split
      · rename_i more same
        rw [same] at colon
        have named := Named.key marked colon (blank_skipSpace more)
        refine (readValue_accounts fuel (skipSpace more)).bind
          (fun e stopped => .here named stopped) ?_
        rintro ⟨a, after⟩ ⟨item, formed, valid⟩
        have blank := blank_skipSpace after
        dsimp only
        split
        · rename_i closed
          rw [closed] at blank
          exact ⟨_, .last named formed blank,
            entriesValid_cons_iff.mpr ⟨a, [], valid, entriesValid_nil_iff.mpr rfl, rfl⟩⟩
        · rename_i more comma
          rw [comma] at blank
          have opened := blank_skipSpace more
          refine (readEntries_accounts fuel (skipSpace more)).bind
            (fun e stopped => .later named formed valid blank opened stopped) ?_
          rintro ⟨made, rest⟩ ⟨entries, inside, others⟩
          exact ⟨_, .next named formed blank opened inside,
            entriesValid_cons_iff.mpr ⟨a, made, valid, others, rfl⟩⟩
        · trivial
      · trivial
  · trivial

end

/-! ## Whole texts -/

theorem read_accounts (s : String) :
    Accounts (read maker s) (fun a => ∃ json, WellFormed s json ∧ Valid maker json a)
      (MeetsRefusal maker s) := by
  have blank := blank_skipSpace s.toList
  unfold read
  refine (readValue_accounts _ _).bind (fun e stopped => ⟨_, blank, stopped⟩) ?_
  rintro ⟨a, after⟩ ⟨json, formed, valid⟩
  have trailing := blank_skipSpace after
  dsimp only
  split
  · rename_i ended
    rw [List.isEmpty_iff.mp ended] at trailing
    exact ⟨json, ⟨_, after, blank, formed, trailing⟩, valid⟩
  · trivial

/-- A text is read exactly when it is well formed and valid. -/
theorem read_eq_ok {s : String} {a : α} :
    read maker s = .ok a ↔ ∃ json, WellFormed s json ∧ Valid maker json a := by
  constructor
  · intro outcome
    have accounts := @read_accounts α ε maker s
    rwa [outcome] at accounts
  · rintro ⟨json, ⟨start, after, leading, formed, trailing⟩, valid⟩
    have shorter := leading.length_le
    unfold read
    dsimp only
    rw [leading.skipSpace_opens formed.opens,
      formed.read valid (trailing.stops .nil) (by omega)]
    simp only [Bind.bind, Except.bind]
    rw [trailing.skipSpace]
    rfl

/-- Reading a text ends in a refusal exactly when the text gets to an object that is refused,
whatever comes after it. -/
theorem read_eq_rejected {s : String} {e : ε} :
    read maker s = .error (.rejected e) ↔ MeetsRefusal maker s e := by
  constructor
  · intro outcome
    have accounts := @read_accounts α ε maker s
    rwa [outcome] at accounts
  · rintro ⟨start, leading, refused⟩
    have shorter := leading.length_le
    unfold read
    dsimp only
    rw [leading.skipSpace_opens refused.opens, refused.read (by omega)]
    rfl

end

end Json

end SearchQuery
