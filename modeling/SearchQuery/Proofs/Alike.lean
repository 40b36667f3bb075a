import Mathlib.Data.List.Forall2
import SearchQuery.Proofs.Slots

/-!
# Equal documents

Two documents are alike when they are equal in one place of a larger document.
Dictionaries are alike whatever their order, so bodies are compared slot by
slot: as long as the keys of the slots are distinct, a slot of one body can
only be alike the slot of the same key in the other.
-/

namespace SearchQuery

namespace Term

/-- Equality of two terms inside a container. -/
def Alike (a b : Term) : Prop :=
  a.matching b = true

attribute [simp] matching atomsEqual sameOccurrence extended?

theorem alike_of_equal {a b : Term} (same : a.equal b = true) : a.Alike b := by
  unfold equal at same
  split at same
  · cases same
  · exact same

theorem equal_of_alike {a b : Term} (same : a.Alike b) (apart : a.sameOccurrence b = false) :
    a.equal b = true := by
  unfold equal
  rw [apart]
  exact same

theorem alike_whole {a b : Whole} (same : a.value = b.value) : (whole a).Alike (whole b) := by
  simp [Alike, Number.extended, Extended.same, same]

theorem alike_text {s t : String} : (text s).Alike (text t) ↔ s = t := by
  simp [Alike]

theorem alike_bool (b : Bool) : (bool b).Alike (bool b) := by
  simp [Alike, Extended.same]

theorem alike_choice (c : Choice) : (choice c).Alike (choice c) := by
  simp [Alike]

theorem alike_null : null.Alike null := by
  simp [Alike]

theorem matchingAll_eq_true {xs ys : List Term} :
    matchingAll xs ys = true ↔ List.Forall₂ Alike xs ys := by
  induction xs generalizing ys with
  | nil => cases ys <;> simp [matchingAll]
  | cons x rest ih =>
      cases ys with
      | nil => simp [matchingAll]
      | cons y others => simp [matchingAll, ih, Alike]

theorem alike_list {xs ys : List Term} : (list xs).Alike (list ys) ↔ List.Forall₂ Alike xs ys := by
  rw [Alike, matching, matchingAll_eq_true]

theorem alike_tuple {xs ys : List Term} :
    (tuple xs).Alike (tuple ys) ↔ List.Forall₂ Alike xs ys := by
  rw [Alike, matching, matchingAll_eq_true]

theorem matchingMembers_eq_true {xs ys : List Term} :
    matchingMembers xs ys = true ↔ ∀ x ∈ xs, ∃ y ∈ ys, x.Alike y := by
  induction xs with
  | nil => simp [matchingMembers]
  | cons x rest ih =>
      simp only [matchingMembers, Bool.and_eq_true, ih, List.any_eq_true, List.forall_mem_cons,
        Alike]

theorem matchingEntries_eq_true {xs ys : List (Term × Term)} :
    matchingEntries xs ys = true ↔
      ∀ x ∈ xs, ∃ y ∈ ys, x.1.Alike y.1 ∧ x.2.Alike y.2 := by
  induction xs with
  | nil => simp [matchingEntries]
  | cons x rest ih =>
      obtain ⟨key, t⟩ := x
      simp only [matchingEntries, Bool.and_eq_true, ih, List.any_eq_true, List.forall_mem_cons,
        Alike]

theorem matchingNamed_eq_true {xs ys : List (String × Term)} :
    matchingNamed xs ys = true ↔ ∀ x ∈ xs, ∃ y ∈ ys, x.1 = y.1 ∧ x.2.Alike y.2 := by
  induction xs with
  | nil => simp [matchingNamed]
  | cons x rest ih =>
      obtain ⟨name, t⟩ := x
      simp only [matchingNamed, Bool.and_eq_true, ih, List.any_eq_true, List.forall_mem_cons,
        beq_iff_eq, Alike]

/-- Records of one kind with fields that are alike one by one are alike. -/
theorem alike_record (kind : String) {xs ys : List (String × Term)}
    (fields : List.Forall₂ (fun x y => x.1 = y.1 ∧ x.2.Alike y.2) xs ys) :
    (record kind xs).Alike (record kind ys) := by
  have named : matchingNamed xs ys = true := by
    rw [matchingNamed_eq_true]
    clear kind
    induction fields with
    | nil => simp
    | cons first _ ih =>
        rw [List.forall_mem_cons]
        refine ⟨⟨_, List.mem_cons_self, first⟩, ?_⟩
        intro x held
        obtain ⟨y, inside, same⟩ := ih x held
        exact ⟨y, List.mem_cons_of_mem _ inside, same⟩
  simp [Alike, fields.length_eq, named]

/-- Only a dictionary is alike a dictionary. -/
theorem dict_of_alike {t : Term} {entries : List (Term × Term)} (same : t.Alike (.dict entries)) :
    ∃ others, t = .dict others := by
  cases t with
  | dict others => exact ⟨others, rfl⟩
  | _ => simp [Alike] at same

theorem of_dict_alike {t : Term} {entries : List (Term × Term)} (same : (dict entries).Alike t) :
    ∃ others, t = .dict others := by
  cases t with
  | dict others => exact ⟨others, rfl⟩
  | _ => simp [Alike] at same

/-- Only a list is alike a list. -/
theorem list_of_alike {t : Term} {items : List Term} (same : t.Alike (.list items)) :
    ∃ others, t = .list others := by
  cases t with
  | list others => exact ⟨others, rfl⟩
  | _ => simp [Alike] at same

theorem of_list_alike {t : Term} {items : List Term} (same : (list items).Alike t) :
    ∃ others, t = .list others := by
  cases t with
  | list others => exact ⟨others, rfl⟩
  | _ => simp [Alike] at same

theorem alike_number_self (x : Number) : (number x).Alike (number x) := by
  cases x with
  | whole w => exact alike_whole rfl
  | double d => cases d <;> simp [Alike, Number.extended, Double.extended, Extended.same]
  | ratio q => simp [Alike, Number.extended, Extended.same]

mutual

/-- Inside a container everything is equal to itself, a not-a-number as the same occurrence. -/
theorem alike_self : (t : Term) → t.Alike t
  | .null => alike_null
  | .bool b => alike_bool b
  | .number x => alike_number_self x
  | .decimal d => by cases d <;> simp [Alike, Decimal.extended, Extended.same]
  | .text _ => alike_text.mpr rfl
  | .bytes _ => by simp [Alike]
  | .dateTime t => by simp [Alike, DateTime.same, DateTime.comparable]
  | .day _ => by simp [Alike]
  | .objectId _ => by simp [Alike]
  | .special s => by cases s <;> simp [Alike]
  | .choice c => alike_choice c
  | .model _ => by simp [Alike]
  | .kindNamed .. => by simp [Alike]
  | .operation _ => by simp [Alike]
  | .token .. => by simp [Alike]
  | .holder .. => by simp [Alike]
  | .table .. => by simp [Alike]
  | .module _ => by simp [Alike]
  | .stream .. => by simp [Alike]
  | .shape .. => by simp [Alike]
  | .fault .. => by simp [Alike]
  | .list items => alike_list.mpr (List.forall₂_same.mpr (all_alike_self items))
  | .tuple items => alike_tuple.mpr (List.forall₂_same.mpr (all_alike_self items))
  | .set items => by
      have members : matchingMembers items items = true :=
        matchingMembers_eq_true.mpr (fun t held => ⟨t, held, all_alike_self items t held⟩)
      simp [Alike, members]
  | .dict entries => by
      have found : matchingEntries entries entries = true :=
        matchingEntries_eq_true.mpr (fun e held => ⟨e, held, entries_alike_self entries e held⟩)
      simp [Alike, found]
  | .bundle entries => by
      have found : matchingNamed entries entries = true :=
        matchingNamed_eq_true.mpr (fun e held => ⟨e, held, rfl, named_alike_self entries e held⟩)
      simp [Alike, found]
  | .code content scope => by
      have inner : matching scope scope = true := alike_self scope
      simp [Alike, inner]
  | .pointer collection id database others => by
      have left : matching collection collection = true := alike_self collection
      have middle : matching id id = true := alike_self id
      have right : matching database database = true := alike_self database
      have found : matchingEntries others others = true :=
        matchingEntries_eq_true.mpr (fun e held => ⟨e, held, entries_alike_self others e held⟩)
      simp [Alike, left, middle, right, found]
  | .record kind fields =>
      alike_record kind
        (List.forall₂_same.mpr (fun e held => ⟨rfl, named_alike_self fields e held⟩))

theorem all_alike_self : (items : List Term) → ∀ t ∈ items, t.Alike t
  | [] => nofun
  | t :: rest => List.forall_mem_cons.mpr ⟨alike_self t, all_alike_self rest⟩

theorem entries_alike_self :
    (entries : List (Term × Term)) → ∀ e ∈ entries, e.1.Alike e.1 ∧ e.2.Alike e.2
  | [] => nofun
  | (key, t) :: rest =>
      List.forall_mem_cons.mpr ⟨⟨alike_self key, alike_self t⟩, entries_alike_self rest⟩

theorem named_alike_self : (entries : List (String × Term)) → ∀ e ∈ entries, e.2.Alike e.2
  | [] => nofun
  | (_, t) :: rest => List.forall_mem_cons.mpr ⟨alike_self t, named_alike_self rest⟩

end

end Term

namespace Value

/-- Equality of two values inside a container. -/
def Alike (v w : Value) : Prop :=
  v.toTerm.Alike w.toTerm

theorem alike_text {s t : String} : (text s).Alike (text t) ↔ s = t := by
  rw [Alike, toTerm, toTerm, Term.alike_text]

/-- A key is that of a text when it is the text. -/
theorem sameKey_text {key : Value} {name : String} :
    sameKey key (.text name) = true ↔ key.toTerm = .text name := by
  unfold sameKey
  cases shown : key.toTerm <;>
    simp [Value.toTerm]

@[simp]
theorem sameKey_texts (a b : String) : sameKey (.text a) (.text b) = (a == b) := by
  rw [Bool.eq_iff_iff, sameKey_text, beq_iff_eq, toTerm, Term.text.injEq]

theorem terms_eq_map (items : List Value) : terms items = items.map toTerm := by
  induction items with
  | nil => simp [terms]
  | cons v rest ih => rw [terms, ih, List.map_cons]

theorem alike_list {xs ys : List Value} : (list xs).Alike (list ys) ↔ List.Forall₂ Alike xs ys := by
  unfold Alike
  rw [toTerm, toTerm, Term.alike_list, terms_eq_map, terms_eq_map, List.forall₂_map_left_iff,
    List.forall₂_map_right_iff]

/-- The entries of a dictionary keyed by texts. -/
theorem toTerm_object (entries : List (String × Value)) :
    (object entries).toTerm = .dict (entries.map (fun e => (.text e.1, e.2.toTerm))) := by
  unfold object
  rw [toTerm]
  congr 1
  induction entries with
  | nil => simp [entryTerms]
  | cons e rest ih => rw [List.map_cons, entryTerms, ih, List.map_cons, toTerm]

theorem alike_object {xs ys : List (String × Value)} :
    (object xs).Alike (object ys) ↔
      xs.length = ys.length ∧ ∀ x ∈ xs, ∃ v, (x.1, v) ∈ ys ∧ x.2.Alike v := by
  unfold Alike
  rw [toTerm_object, toTerm_object, Term.Alike, Term.matching, Bool.and_eq_true, beq_iff_eq,
    List.length_map, List.length_map, Term.matchingEntries_eq_true, List.forall_mem_map]
  refine and_congr_right (fun _ => forall_congr' (fun x => imp_congr_right (fun _ => ?_)))
  constructor
  · rintro ⟨y, held, key, same⟩
    obtain ⟨e, inside, rfl⟩ := List.mem_map.mp held
    have equal : x.1 = e.1 := Term.alike_text.mp key
    exact ⟨e.2, equal ▸ inside, same⟩
  · rintro ⟨v, inside, same⟩
    exact ⟨_, List.mem_map.mpr ⟨_, inside, rfl⟩, Term.alike_text.mpr rfl, same⟩

/-- Documents with one entry are alike when their names and their bodies are. -/
theorem alike_single {a b : String} {v w : Value} :
    (object [(a, v)]).Alike (object [(b, w)]) ↔ a = b ∧ v.Alike w := by
  rw [alike_object]
  constructor
  · rintro ⟨-, all⟩
    obtain ⟨u, held, same⟩ := all (a, v) List.mem_cons_self
    cases List.mem_singleton.mp held
    exact ⟨rfl, same⟩
  · rintro ⟨rfl, same⟩
    refine ⟨rfl, ?_⟩
    intro x held
    cases List.mem_singleton.mp held
    exact ⟨w, List.mem_cons_self, same⟩

end Value

namespace Slot

/-- Rows of slots with the same keys: whatever fills a slot of the first is
alike what fills the slot of the second. -/
theorem length_present_le {xs ys : List Slot}
    (filled : List.Forall₂ (fun x y : Slot => ∀ v ∈ x.2, ∃ w ∈ y.2, Value.Alike v w) xs ys) :
    (present xs).length ≤ (present ys).length := by
  induction filled with
  | nil => exact Nat.le_refl _
  | @cons x y _ _ first _ ih =>
      obtain ⟨key, _ | v⟩ := x
      · obtain ⟨other, _ | w⟩ := y
        · exact ih
        · exact Nat.le_succ_of_le ih
      · obtain ⟨w, same, -⟩ := first v rfl
        obtain ⟨other, filling⟩ := y
        cases same
        exact Nat.succ_le_succ ih

/-- When one row fills every slot that another fills, and both fill as many,
they fill the same slots. -/
theorem rel_of_length_le {xs ys : List Slot}
    (filled : List.Forall₂ (fun x y : Slot => ∀ v ∈ x.2, ∃ w ∈ y.2, Value.Alike v w) xs ys)
    (length : (present ys).length ≤ (present xs).length) :
    List.Forall₂ (fun x y : Slot => Option.Rel Value.Alike x.2 y.2) xs ys := by
  induction filled with
  | nil => exact .nil
  | @cons x y rest others first later ih =>
      have below := length_present_le later
      obtain ⟨key, _ | v⟩ := x
      · obtain ⟨other, _ | w⟩ := y
        · exact .cons .none (ih length)
        · simp only [present_none, present_some, List.length_cons] at length
          omega
      · obtain ⟨w, same, alike⟩ := first v rfl
        obtain ⟨other, filling⟩ := y
        cases same
        simp only [present_some, List.length_cons] at length
        exact .cons (.some alike) (ih (by omega))

/-- A slot can only be alike the slot of its own key, when keys are distinct. -/
theorem filled_of_mem {xs ys : List Slot} (keys : xs.map Prod.fst = ys.map Prod.fst)
    (distinct : (ys.map Prod.fst).Nodup)
    (all : ∀ key v, (key, some v) ∈ xs → ∃ w, (key, some w) ∈ ys ∧ Value.Alike v w) :
    List.Forall₂ (fun x y : Slot => ∀ v ∈ x.2, ∃ w ∈ y.2, Value.Alike v w) xs ys := by
  induction xs generalizing ys with
  | nil =>
      cases ys with
      | nil => exact .nil
      | cons y others => cases keys
  | cons x rest ih =>
      cases ys with
      | nil => cases keys
      | cons y others =>
          obtain ⟨key, filling⟩ := x
          obtain ⟨other, filled⟩ := y
          rw [List.map_cons, List.map_cons, List.cons.injEq] at keys
          obtain ⟨rfl, tails⟩ := keys
          rw [List.map_cons, List.nodup_cons] at distinct
          refine .cons ?_ (ih tails distinct.2 ?_)
          · intro v same
            cases same
            obtain ⟨w, held, alike⟩ := all key v List.mem_cons_self
            rcases List.mem_cons.mp held with here | there
            · cases here
              exact ⟨w, rfl, alike⟩
            · exact absurd (List.mem_map.mpr ⟨_, there, rfl⟩) distinct.1
          · intro k v held
            obtain ⟨w, inside, alike⟩ := all k v (List.mem_cons_of_mem _ held)
            rcases List.mem_cons.mp inside with here | there
            · cases here
              have twice : key ∈ rest.map Prod.fst := List.mem_map.mpr ⟨_, held, rfl⟩
              exact absurd (tails ▸ twice) distinct.1
            · exact ⟨w, there, alike⟩

/-- Bodies over the same distinct keys are alike slot by slot. -/
theorem alike_slots (xs ys : List Slot) (keys : xs.map Prod.fst = ys.map Prod.fst)
    (distinct : (ys.map Prod.fst).Nodup)
    (same : (Value.object (present xs)).Alike (.object (present ys))) :
    List.Forall₂ (fun x y : Slot => Option.Rel Value.Alike x.2 y.2) xs ys := by
  obtain ⟨length, all⟩ := Value.alike_object.mp same
  refine rel_of_length_le (filled_of_mem keys distinct ?_) (Nat.le_of_eq length.symm)
  intro key v held
  obtain ⟨w, inside, alike⟩ := all (key, v) (mem_present.mpr held)
  exact ⟨w, mem_present.mp inside, alike⟩

end Slot

end SearchQuery
