import SearchQuery.Proofs.Targets

/-!
# Errors of a run

A run prints the document of a request, or it reports one error in one line.
Every way out of that is listed by what is met on it: by the target and what is
on the way to it, by what is found there and what a call of it does, by what is
given for a schema, by the first demand of the definition that is not met, and
by what its document holds.
-/

namespace SearchQuery

open Outcome (FailsAs)
open Text (Unbroken)

namespace Demand

/-- A demand is not met: a schema does not give a name for the field, the geometry can be read only
once, or the hand-written document cannot be copied. -/
inductive Unmet (resolve : Resolver) : Demand → Fault Value → Prop where
  | name {field : Field} {fault : Fault Value} (refused : resolve field = .error fault) :
      Unmet resolve (.name field) fault
  | geometry {argument : String} {allowed : List String} {g : Geometry Value}
      (once : g.given.readsOnce = true) :
      Unmet resolve (.geometry argument allowed g) (g.given.spentFault argument allowed)
  | copy {entries : List (Value × Value)} (kept : (Value.dict entries).copyable = false) :
      Unmet resolve (.copy entries) (.refused .wrongType)

/-- All of several demands are met. -/
def AllMet (resolve : Resolver) (demands : List Demand) : Prop :=
  ∀ demand ∈ demands, ∀ fault, ¬ demand.Unmet resolve fault

variable {resolve : Resolver} {demand : Demand} {demands : List Demand} {fault : Fault Value}

end Demand

namespace Operator

variable {resolve : Resolver} {op : Operator Value}

end Operator

namespace CommandLine

/-- A target leads to an operator, or to what gives one when it is called. -/
inductive Opens (w : Workspace) (target : String) (s : Session) (op : Operator Value)
    (after : Session) : Prop where
  | at {found : Found} (leads : Leads w s.catalog target found)
      (gives : found.toValue w s = (.ok (.node (.operator op)), after)) : Opens w target s op after

/-- What is named for a schema, if anything, stands for one. -/
inductive Stands (w : Workspace) (c : Catalog) : Option String → Schema → Prop where
  | absent : Stands w c none .untyped
  | empty : Stands w c (some "") .untyped
  | named {target : String} {found : Found} {sc : Schema} (proper : target ≠ "")
      (leads : Leads w c target found) (counts : CountsAs w c found sc) :
      Stands w c (some target) sc

section

variable (w : Workspace) (environment : Option String) (target : String) (schema : Option String)
  (wrapping : Wrapping) (index : Option String) (indent : Int) (s : Session)

/-- The ways in which something else than a document or a line leaves a run. -/
inductive Escapes : Prop where
  | target (strays : Strays w s.catalog target)
  | call {found : Found} (leads : Leads w s.catalog target found) (refuses : found.Refuses w s)
  | kind {found : Found} {v : Value} {after : Session} (leads : Leads w s.catalog target found)
      (gives : found.toValue w s = (.ok v, after)) (other : ∀ op, v ≠ .node (.operator op))
      (broken : ¬ Unbroken v.kind)
  | schema {op : Operator Value} {after : Session} {name : String}
      (opens : Opens w target s op after) (given : schema = some name) (proper : name ≠ "")
      (strays : Strays w after.catalog name)
  | offer {op : Operator Value} {after : Session} {name : String} {found : Found}
      {fault : Fault Value} (opens : Opens w target s op after) (given : schema = some name)
      (proper : name ≠ "") (leads : Leads w after.catalog name found)
      (other : schemaValue? found = none)
      (failed : found.part w after.catalog "resolve" = .error fault) (untold : ¬ fault.Told)
  | demand {op : Operator Value} {after : Session} {sc : Schema} {before later : List Demand}
      {demand : Demand} {fault : Fault Value} (opens : Opens w target s op after)
      (stands : Stands w after.catalog schema sc) (split : op.demands = before ++ demand :: later)
      (met : Demand.AllMet (sc.resolver after.catalog) before)
      (unmet : demand.Unmet (sc.resolver after.catalog) fault) (untold : ¬ fault.Told)
  | indent {op : Operator Value} {after : Session} {sc : Schema} (opens : Opens w target s op after)
      (stands : Stands w after.catalog schema sc)
      (met : Demand.AllMet (sc.resolver after.catalog) op.demands)
      (large : ¬ (-ExtendedJson.blanksLimit ≤ indent ∧ indent < ExtendedJson.blanksLimit))
  | print {op : Operator Value} {after : Session} {sc : Schema} {v : Value}
      (opens : Opens w target s op after) (stands : Stands w after.catalog schema sc)
      (written : op.render (sc.resolver after.catalog) = .ok v)
      (unprinted : ¬ (wrapping.wrap ((chosenName index environment).map .plain) v).Prints)

end

/-! ## Loading -/

section

variable {w : Workspace} {target : String} {s after : Session} {c : Catalog}
  {schema : Option String}

theorem asOperator_eq_ok_iff {v : Value} {op : Operator Value} :
    asOperator target v = .ok op ↔ v = .node (.operator op) := by
  unfold asOperator
  split
  · simp
  · rename_i other
    exact iff_of_false nofun (other op)

theorem loadOperator_eq_ok_iff {op : Operator Value} :
    loadOperator w (.text target) s = (.ok op, after) ↔ Opens w target s op after := by
  rw [loadOperator_apply]
  constructor
  · intro loaded
    split at loaded
    · cases loaded
    · rename_i found sought
      split at loaded
      · cases loaded
      · rename_i v last gives
        obtain ⟨made, rfl⟩ := Prod.mk.inj loaded
        rw [asOperator_eq_ok_iff.mp made] at gives
        exact .at (sought_eq_ok_iff.mp sought) gives
  · rintro ⟨leads, gives⟩
    rw [sought_eq_ok_iff.mpr leads]
    dsimp only
    rw [gives]
    rfl

/-- What is loaded as a schema stands for one. -/
theorem loadSchema_eq_ok_iff {sc : Schema} :
    (∃ v, loadSchema w (.ofOption .text schema) s = (.ok v, s) ∧
      Schema.coerce s.catalog v = .ok sc) ↔ Stands w s.catalog schema sc := by
  constructor
  · rintro ⟨v, loaded, stands⟩
    rcases schema with - | name
    · cases loaded
      cases stands
      exact .absent
    · by_cases proper : name = ""
      · subst proper
        cases loaded
        cases stands
        exact .empty
      · rw [Value.ofOption, loadSchema_text w name s proper] at loaded
        split at loaded
        · cases loaded
        · rename_i found sought
          cases taken : schemaOf w s.catalog found with
          | error fault =>
              rw [taken] at loaded
              cases loaded
          | ok u =>
              rw [taken] at loaded
              cases loaded
              exact .named proper (sought_eq_ok_iff.mp sought)
                (schemaOf_eq_ok_iff.mp ⟨_, taken, stands⟩)
  · rintro (- | - | ⟨proper, leads, counts⟩)
    · exact ⟨.null, rfl, rfl⟩
    · exact ⟨.null, rfl, rfl⟩
    · obtain ⟨v, taken, stands⟩ := schemaOf_eq_ok_iff.mpr counts
      refine ⟨v, ?_, stands⟩
      rw [Value.ofOption, loadSchema_text w _ s proper, sought_eq_ok_iff.mpr leads]
      dsimp only
      rw [taken]
      rfl

theorem prepared_iff {op : Operator Value} {sc : Schema} :
    Prepared w target schema s op c sc ↔
      ∃ after, Opens w target s op after ∧ Stands w after.catalog schema sc ∧ after.catalog = c := by
  constructor
  · rintro ⟨after, v, operator, schemed, same, stands⟩
    subst same
    exact ⟨after, loadOperator_eq_ok_iff.mp operator, loadSchema_eq_ok_iff.mp ⟨v, schemed, stands⟩,
      rfl⟩
  · rintro ⟨after, opens, stands, same⟩
    subst same
    obtain ⟨v, schemed, coerced⟩ := loadSchema_eq_ok_iff.mpr stands
    exact ⟨after, v, loadOperator_eq_ok_iff.mpr opens, schemed, rfl, coerced⟩

end

/-! ## Runs -/

section

variable {w : Workspace} {environment : Option String} {target : String} {schema : Option String}
  {wrapping : Wrapping} {index : Option String} {indent : Int} {s : Session}

end

/-! ## A workspace -/

/-- A workspace of one module, with one definition. -/
def shop (op : Operator Value) : Workspace :=
  ⟨[⟨"shop", [("query", .value (.ofOperator op))]⟩], .plain⟩

/-- The target of the shop leads to its definition. -/
theorem shop_sought (op : Operator Value) (c : Catalog) :
    sought (shop op) "shop:query" c = .ok (.value (.ofOperator op)) := by
  refine sought_eq_ok_iff.mpr (.along (t := ⟨"shop", "query"⟩) (by decide) ?_ rfl
    (.step rfl (.here _)))
  simp [Target.isRelative]

theorem shop_opens (op : Operator Value) (s : Session) : Opens (shop op) "shop:query" s op s :=
  .at (sought_eq_ok_iff.mp (shop_sought op s.catalog)) rfl

/-- The definition of the shop is loaded, over names as they are. -/
theorem shop_prepared (op : Operator Value) (s : Session) :
    Prepared (shop op) "shop:query" none s op s.catalog .untyped :=
  prepared_iff.mpr ⟨s, shop_opens op s, .absent, rfl⟩

end CommandLine

end SearchQuery
