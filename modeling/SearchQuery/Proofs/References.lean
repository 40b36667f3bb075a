import SearchQuery.Build.Guard
import SearchQuery.Proofs.Outcome

/-!
# References

A reference walks from model to model, and a schema gives it the name that the
walk spells.
-/

namespace SearchQuery

/-!
## Walks along members

A path is resolved segment by segment: each segment that means a member is
replaced by the stored name of the member, and the path goes on in the model
nested in it.  The way through the models is a walk; where it ends is all that
the rest of the path depends on.  What no walk goes along stands for itself, and
comes last.
-/

namespace Model

variable {m : Model} {member : Member} {segment : String}

theorem member?_sound {name : String} (found : m.member? name = some member) :
    member ∈ m.members ∧ member.name = name := by
  have named := List.find?_some found
  exact ⟨List.mem_of_find?_eq_some found, eq_of_beq named⟩

theorem lookup?_of_member? (found : m.member? segment = some member) :
    m.lookup? segment = some member := by
  rw [lookup?, found]

theorem mem_of_lookup? (found : m.lookup? segment = some member) : member ∈ m.members := by
  unfold lookup? at found
  split at found
  · rename_i named
    cases found
    exact (member?_sound named).1
  · exact List.mem_of_find?_eq_some found

end Model

namespace Catalog

/-- A walk along segments, each of which means a member of the model reached so
far, to the model nested in the last member, if there is one. -/
inductive Walk (c : Catalog) :
    Option ModelName → List String → List Member → Option ModelName → Prop where
  | here (current : Option ModelName) : Walk c current [] [] current
  | step {m : ModelName} {segment : String} {member : Member} {segments : List String}
      {members : List Member} {target : Option ModelName}
      (found : (c m).lookup? segment = some member)
      (rest : Walk c member.content.nested segments members target) :
      Walk c (some m) (segment :: segments) (member :: members) target

/-- Segments that stand for themselves after a walk: there are none, or there is
no model to look them up in, or the model allows undeclared members and the
first of them means no declared one. -/
def Verbatim (c : Catalog) : Option ModelName → List String → Prop
  | some m, segment :: _ => (c m).lookup? segment = none ∧ (c m).extra = .allow
  | _, _ => True

variable {c : Catalog} {start target : Option ModelName} {walked segments rest : List String}
  {members : List Member}

theorem storedNames_nil (start : Option ModelName) : c.storedNames start [] = .ok [] := by
  cases start <;> rfl

namespace Walk

/-- After a walk, what is left of a path is resolved as if the walk had started there. -/
theorem storedNames (walk : c.Walk start walked members target) (rest : List String) :
    c.storedNames start (walked ++ rest) =
      (c.storedNames target rest).map (members.map Member.storedName ++ ·) := by
  induction walk with
  | here current => cases found : c.storedNames current rest <;> simp [Except.map, found]
  | @step m segment member segments members target found walk ih =>
      rw [List.cons_append, Catalog.storedNames, found]
      dsimp only
      rw [ih]
      cases c.storedNames target rest <;> rfl

theorem members_ne_nil (walk : c.Walk start walked members target) (some : walked ≠ []) :
    members ≠ [] := by
  cases walk with
  | here current => exact absurd rfl some
  | step found rest => exact List.cons_ne_nil _ _

end Walk

theorem storedNames_of_verbatim (verbatim : c.Verbatim target rest) :
    c.storedNames target rest = .ok rest := by
  cases rest with
  | nil => exact storedNames_nil target
  | cons segment more =>
      cases target with
      | none => rfl
      | some m =>
          obtain ⟨unknown, allows⟩ := verbatim
          simp only [storedNames, unknown, allows, if_true]

/-- A path has stored names exactly when it is a walk followed by segments that
stand for themselves; the members of the walk are stored under their names. -/
theorem storedNames_eq_ok {names : List String} :
    c.storedNames start segments = .ok names ↔
      ∃ walked rest members target, segments = walked ++ rest ∧
        c.Walk start walked members target ∧ c.Verbatim target rest ∧
          names = members.map Member.storedName ++ rest := by
  constructor
  · intro found
    induction segments generalizing start names with
    | nil =>
        rw [storedNames_nil] at found
        cases found
        refine ⟨[], [], [], start, rfl, .here start, ?_, rfl⟩
        cases start <;> trivial
    | cons segment more ih =>
        cases start with
        | none =>
            cases found
            exact ⟨[], segment :: more, [], none, rfl, .here none, trivial, rfl⟩
        | some m =>
            cases meant : (c m).lookup? segment with
            | none =>
                simp only [storedNames, meant] at found
                split at found
                · rename_i allows
                  cases found
                  exact ⟨[], segment :: more, [], some m, rfl, .here _, ⟨meant, allows⟩, rfl⟩
                · cases found
            | some member =>
                simp only [storedNames, meant] at found
                split at found
                · rename_i names later
                  cases found
                  obtain ⟨walked, rest, members, target, rfl, walk, verbatim, rfl⟩ := ih later
                  exact ⟨segment :: walked, rest, member :: members, target, rfl,
                    .step meant walk, verbatim, rfl⟩
                · cases found
  · rintro ⟨walked, rest, members, target, rfl, walk, verbatim, rfl⟩
    rw [walk.storedNames, storedNames_of_verbatim verbatim]
    rfl

/-- A path has no stored names exactly when a walk along it stops: the next segment means no member
of the model reached so far, and the model allows no undeclared ones. -/
theorem storedNames_eq_error {unknown : UnknownSegment} :
    c.storedNames start segments = .error unknown ↔
      ∃ walked rest members, segments = walked ++ unknown.segment :: rest ∧
        c.Walk start walked members (some unknown.model) ∧
          (c unknown.model).lookup? unknown.segment = none ∧ (c unknown.model).extra ≠ .allow := by
  constructor
  · intro stopped
    induction segments generalizing start with
    | nil =>
        rw [storedNames_nil] at stopped
        cases stopped
    | cons segment more ih =>
        cases start with
        | none => cases stopped
        | some m =>
            cases meant : (c m).lookup? segment with
            | none =>
                simp only [storedNames, meant] at stopped
                split at stopped
                · cases stopped
                · rename_i strict
                  cases stopped
                  exact ⟨[], more, [], rfl, .here _, meant, strict⟩
            | some member =>
                simp only [storedNames, meant] at stopped
                split at stopped
                · cases stopped
                · rename_i later
                  cases stopped
                  obtain ⟨walked, rest, members, rfl, walk, fails⟩ := ih later
                  exact ⟨segment :: walked, rest, member :: members, rfl, .step meant walk, fails⟩
  · rintro ⟨walked, rest, members, rfl, walk, unmeant, strict⟩
    rw [walk.storedNames, storedNames, unmeant]
    simp only [if_neg strict]
    rfl

end Catalog

/-!
## References to members

The references that the members of a model give are its chains of members: a
member of the model, then a member of the model that the annotation of the
last one names first, and so on, in graphs of models that may well be cyclic.
Resolving such a reference, or the dotted name that it stands for, looks up
the same chain again.
-/

namespace Catalog

/-- A chain of members from a model: each is a member of the model nested in
the one before. -/
inductive Chain (c : Catalog) : ModelName → List String → List Member → Prop where
  | last {m : ModelName} {name : String} {member : Member}
      (found : (c m).member? name = some member) : Chain c m [name] [member]
  | step {m next : ModelName} {name : String} {member : Member} {names : List String}
      {members : List Member} (found : (c m).member? name = some member)
      (leads : member.content.nested = some next) (rest : Chain c next names members) :
      Chain c m (name :: names) (member :: members)

variable {c : Catalog}

namespace Chain

theorem names_ne_nil {m : ModelName} {names : List String} {members : List Member}
    (chain : Chain c m names members) : names ≠ [] := by
  cases chain with
  | last found => exact List.cons_ne_nil _ _
  | step found leads rest => exact List.cons_ne_nil _ _

/-- A chain goes on with every member of the model that it reaches. -/
theorem snoc {m target : ModelName} {names : List String} {members : List Member}
    {name : String} {member : Member} (chain : Chain c m names members)
    (reached : c.reach (some m) names = .ok (some target))
    (found : (c target).member? name = some member) :
    Chain c m (names ++ [name]) (members ++ [member]) := by
  induction chain with
  | last first =>
      simp only [reach, first] at reached
      exact .step first (Except.ok.inj reached) (.last found)
  | step first leads rest ih =>
      simp only [reach, first, leads] at reached
      exact .step first leads (ih reached)

/-- Every name of a chain is that of its own member, so a chain is a walk along its members. -/
theorem walk {m : ModelName} {names : List String} {members : List Member}
    (chain : Chain c m names members) : ∃ target, c.Walk (some m) names members target := by
  induction chain with
  | last found => exact ⟨_, .step (Model.lookup?_of_member? found) (.here _)⟩
  | step found leads rest ih =>
      obtain ⟨target, walk⟩ := ih
      exact ⟨target, .step (Model.lookup?_of_member? found) (leads ▸ walk)⟩

theorem storedNames {m : ModelName} {names : List String} {members : List Member}
    (chain : Chain c m names members) :
    c.storedNames (some m) names = .ok (members.map Member.storedName) := by
  obtain ⟨target, walk⟩ := chain.walk
  have whole := walk.storedNames []
  rw [List.append_nil, storedNames_nil] at whole
  rw [whole, Except.map, List.append_nil]

end Chain

theorem reach_append {m : Option ModelName} {target : ModelName} {before : List String}
    (rest : List String) (reached : c.reach m before = .ok (some target)) :
    c.reach m (before ++ rest) = c.reach (some target) rest := by
  induction before generalizing m with
  | nil =>
      simp only [reach] at reached
      rw [Except.ok.inj reached]
      rfl
  | cons name more ih =>
      cases m with
      | none =>
          simp only [reach] at reached
          cases reached
      | some m =>
          cases found : (c m).member? name with
          | none =>
              simp only [reach, found] at reached
              cases reached
          | some member =>
              simp only [reach, found] at reached
              simp only [List.cons_append, reach, found]
              exact ih reached

/-- A model keeps another when it is that model or extends it, and redefines
none of its members. -/
structure Keeps (c : Catalog) (d m : ModelName) : Prop where
  inherits : c.inherits d m = true
  members : ∀ name member, (c m).member? name = some member → (c d).member? name = some member

theorem Keeps.chain {d m : ModelName} {names : List String} {members : List Member}
    (keeps : c.Keeps d m) (chain : Chain c m names members) : Chain c d names members := by
  cases chain with
  | last found => exact .last (keeps.members _ _ found)
  | step found leads rest => exact .step (keeps.members _ _ found) leads rest

theorem Keeps.refl (m : ModelName) : c.Keeps m m :=
  ⟨by simp [Catalog.inherits], fun _ _ found => found⟩

theorem find?_mergeMembers {inherited own : List Member} {name : String} {member : Member}
    (apart : ∀ old ∈ inherited, ∀ new ∈ own, new.name ≠ old.name)
    (found : inherited.find? (fun old => old.name == name) = some member) :
    (Model.mergeMembers inherited own).find? (fun old => old.name == name) = some member := by
  have kept : inherited.map
      (fun old => (own.find? (fun new => new.name == old.name)).getD old) = inherited := by
    refine (List.map_congr_left (fun old held => ?_)).trans (List.map_id inherited)
    have none : own.find? (fun new => new.name == old.name) = none := by
      refine List.find?_eq_none.mpr (fun new there => ?_)
      simpa using apart old held new there
    rw [none]
    rfl
  unfold Model.mergeMembers
  rw [kept, List.find?_append, found]
  rfl

/-- A declaration that extends a model and redefines none of its members keeps it. -/
theorem Keeps.declare {m : ModelName} {d : Declaration} (extending : d.extending = some m)
    (other : m ≠ d.name)
    (apart : ∀ old ∈ (c m).members, ∀ new ∈ d.members, new.name ≠ old.name) :
    (c.declare d).Keeps d.name m := by
  have parent : c.declare d m = c m := if_neg other
  have child : c.declare d d.name = c.expand d := if_pos rfl
  refine ⟨?_, ?_⟩
  · simp [Catalog.inherits, child, expand, extending]
  · intro name member found
    rw [parent] at found
    rw [child, Model.member?]
    simp only [expand, extending]
    exact find?_mergeMembers apart found

end Catalog

/-- What is obtained from the members of a model by asking for items, one after
another, under keys of any kind. -/
inductive Obtainable (c : Catalog) (m : ModelName) : Value → Prop where
  | first {tag : Nat} {key v : Value} (found : (Value.node (.members m tag)).item c key = .ok v) :
      Obtainable c m v
  | next {v key w : Value} (before : Obtainable c m v) (found : v.item c key = .ok w) :
      Obtainable c m w

namespace Reference

variable {c : Catalog}

/-- Only a text names a member. -/
theorem member_is_named {owner parts key v : Value} (found : member c owner parts key = .ok v) :
    ∃ name, key = .text name := by
  obtain ⟨items, -, more⟩ := Outcome.bind_eq_ok.mp found
  obtain ⟨model, -, more⟩ := Outcome.bind_eq_ok.mp more
  obtain ⟨left, -, more⟩ := Outcome.bind_eq_ok.mp more
  split at more
  · obtain ⟨text, -, stopped⟩ := Outcome.bind_eq_ok.mp more
    cases stopped
  · cases key with
    | text name => exact ⟨name, rfl⟩
    | _ =>
        simp only [Bool.false_eq_true, if_false] at more
        split at more <;> cases more
  · cases more

theorem item_is_named {owner parts key v : Value} (found : item c owner parts key = .ok v) :
    ∃ name, key = .text name := by
  unfold item at found
  split at found
  · cases found
  · exact member_is_named found

end Reference

namespace FieldRef

variable {c : Catalog}

theorem ofMember_eq_ok {m : ModelName} {name : String} {r : FieldRef} :
    ofMember c m name = .ok r ↔ ∃ member, (c m).member? name = some member ∧ r = ⟨m, [name]⟩ := by
  unfold ofMember
  cases found : (c m).member? name with
  | none => simp
  | some member => simp [eq_comm]

theorem member_eq_ok {r s : FieldRef} {name : String} :
    r.member c name = .ok s ↔ ∃ target member, c.reach (some r.owner) r.parts = .ok (some target) ∧
      (c target).member? name = some member ∧ s = ⟨r.owner, r.parts ++ [name]⟩ := by
  unfold FieldRef.member
  cases reached : c.reach (some r.owner) r.parts with
  | error part => simp
  | ok current =>
      cases current with
      | none => simp
      | some target =>
          cases found : (c target).member? name with
          | none => simp [found]
          | some member => simp [found, eq_comm]

end FieldRef

namespace Value

variable {c : Catalog}

theorem memberItem_eq_ok {key v : Value} {found : Except AccessError FieldRef} :
    memberItem key found = .ok v ↔ ∃ r, found = .ok r ∧ v = .node (.field r) := by
  cases found with
  | ok r => simp [memberItem, eq_comm]
  | error e => cases e <;> simp [memberItem]

theorem ofMember_eq_value {found : Except AccessError FieldRef} {v : Value} :
    ofMember found = .ok (.value v) ↔ ∃ r, found = .ok r ∧ v = .node (.field r) := by
  cases found with
  | ok r => simp [ofMember, eq_comm]
  | error e => simp [ofMember]

/-- An item of a table of members is one of them. -/
theorem item_members {m : ModelName} {tag : Nat} {key v : Value} :
    (node (.members m tag)).item c key = .ok v ↔ ∃ name member, key = .text name ∧
      (c m).member? name = some member ∧ v = .node (.field ⟨m, [name]⟩) := by
  constructor
  · intro found
    cases key with
    | text name =>
        obtain ⟨r, named, rfl⟩ := memberItem_eq_ok.mp found
        obtain ⟨member, held, rfl⟩ := FieldRef.ofMember_eq_ok.mp named
        exact ⟨name, member, rfl, held, rfl⟩
    | _ =>
        simp only [item] at found
        cases found
  · rintro ⟨name, member, rfl, held, rfl⟩
    exact memberItem_eq_ok.mpr ⟨_, FieldRef.ofMember_eq_ok.mpr ⟨member, held, rfl⟩, rfl⟩

/-- An item of a reference goes on to a member of the model that it reaches. -/
theorem item_field {r : FieldRef} {key v : Value} :
    (node (.field r)).item c key = .ok v ↔ ∃ name target member, key = .text name ∧
      c.reach (some r.owner) r.parts = .ok (some target) ∧
        (c target).member? name = some member ∧
          v = .node (.field ⟨r.owner, r.parts ++ [name]⟩) := by
  constructor
  · intro found
    cases key with
    | text name =>
        obtain ⟨s, named, rfl⟩ := memberItem_eq_ok.mp found
        obtain ⟨target, member, reached, held, rfl⟩ := FieldRef.member_eq_ok.mp named
        exact ⟨name, target, member, rfl, reached, held, rfl⟩
    | _ =>
        obtain ⟨name, impossible⟩ := Reference.item_is_named found
        cases impossible
  · rintro ⟨name, target, member, rfl, reached, held, rfl⟩
    exact memberItem_eq_ok.mpr
      ⟨_, FieldRef.member_eq_ok.mpr ⟨target, member, reached, held, rfl⟩, rfl⟩

end Value

/-- Every member of the model that a chain reaches is obtained after the chain. -/
theorem Obtainable.snoc {c : Catalog} {m target : ModelName} {before : List String}
    {name : String} {member : Member}
    (obtained : before = [] ∨ Obtainable c m (.node (.field ⟨m, before⟩)))
    (reached : c.reach (some m) before = .ok (some target))
    (found : (c target).member? name = some member) :
    Obtainable c m (.node (.field ⟨m, before ++ [name]⟩)) := by
  rcases obtained with rfl | obtained
  · cases reached
    have item : (Value.node (.members m 0)).item c (.text name) =
        .ok (.node (.field ⟨m, [name]⟩)) := Value.item_members.mpr ⟨name, member, rfl, found, rfl⟩
    exact .first item
  · exact .next obtained (Value.item_field.mpr ⟨name, target, member, rfl, reached, found, rfl⟩)

namespace Catalog.Chain

variable {c : Catalog}

/-- The chains from a model that a chain reaches are obtained by going on from
there. -/
theorem obtainable_after {m current : ModelName} {names : List String} {members : List Member}
    (chain : Chain c current names members) (before : List String)
    (reached : c.reach (some m) before = .ok (some current))
    (obtained : before = [] ∨ Obtainable c m (.node (.field ⟨m, before⟩))) :
    Obtainable c m (.node (.field ⟨m, before ++ names⟩)) := by
  induction chain generalizing before with
  | last found => exact .snoc obtained reached found
  | @step current next name member names members found leads rest ih =>
      have further : c.reach (some m) (before ++ [name]) = .ok (some next) := by
        rw [reach_append [name] reached]
        simp only [reach, found, leads]
      have whole := ih (before ++ [name]) further (.inr (.snoc obtained reached found))
      rwa [List.append_assoc, List.singleton_append] at whole

theorem obtainable {m : ModelName} {names : List String} {members : List Member}
    (chain : Chain c m names members) : Obtainable c m (.node (.field ⟨m, names⟩)) :=
  chain.obtainable_after [] rfl (.inl rfl)

end Catalog.Chain

/-- What is obtained by items is exactly the chains of members. -/
theorem obtainable_iff {c : Catalog} {m : ModelName} {v : Value} :
    Obtainable c m v ↔
      ∃ names members, c.Chain m names members ∧ v = .node (.field ⟨m, names⟩) := by
  constructor
  · intro obtained
    induction obtained with
    | first found =>
        obtain ⟨name, member, -, held, rfl⟩ := Value.item_members.mp found
        exact ⟨[name], [member], .last held, rfl⟩
    | next before found ih =>
        obtain ⟨names, members, chain, rfl⟩ := ih
        obtain ⟨name, target, member, -, reached, held, rfl⟩ := Value.item_field.mp found
        exact ⟨_, _, chain.snoc reached held, rfl⟩
  · rintro ⟨names, members, chain, rfl⟩
    exact chain.obtainable

/-! ### Attributes -/

namespace Value

variable {c : Catalog}

theorem ne_of_not_startsWith {name : String} (other : String)
    (plain : name.startsWith "_" = false) (marked : other.startsWith "_" = true) :
    name ≠ other := by
  rintro rfl
  rw [plain] at marked
  cases marked

/-- A table of members answers an attribute like an item. -/
theorem part_members {m : ModelName} {tag : Nat} {name : String} {v : Value}
    (plain : name.startsWith "_" = false) :
    (node (.members m tag)).part c name = .ok (.value v) ↔
      (node (.members m tag)).item c (.text name) = .ok v := by
  have other := ne_of_not_startsWith "_model" plain (by simp)
  simp only [part, nodePart, item, other, plain, if_false, Bool.false_eq_true]
  rw [ofMember_eq_value, memberItem_eq_ok]

/-- A reference answers an attribute like an item, its own parts excepted. -/
theorem part_field {r : FieldRef} {name : String} {v : Value}
    (plain : name.startsWith "_" = false) (notModel : name ≠ "model") (notParts : name ≠ "parts") :
    (node (.field r)).part c name = .ok (.value v) ↔
      (node (.field r)).item c (.text name) = .ok v := by
  have other := ne_of_not_startsWith "_member" plain (by simp)
  simp only [part, nodePart, referencePart, item, notModel, notParts, other, plain, if_false,
    Bool.false_eq_true]
  rw [ofMember_eq_value, memberItem_eq_ok]

end Value

/-! ### Resolution -/

namespace Schema

variable {c : Catalog}

/-- A chain of members of a model resolves to the stored names of its members by
every model that keeps it. -/
theorem resolve_chain {d m : ModelName} {names : List String} {members : List Member}
    (keeps : c.Keeps d m) (chain : c.Chain m names members) :
    resolve c (.modelled d) (.node (.field ⟨m, names⟩)) =
      .ok (.plain (Text.dotted (members.map Member.storedName))) := by
  show outcome _ (resolveChain c d ⟨m, names⟩) = _
  simp only [resolveChain, keeps.inherits, if_true, serialize, (keeps.chain chain).storedNames]
  rfl

/-- The dotted name of a chain resolves like the chain, unless it is empty. -/
theorem resolve_dotted {d m : ModelName} {names : List String} {members : List Member}
    (keeps : c.Keeps d m) (chain : c.Chain m names members)
    (dotless : ∀ name ∈ names, '.' ∉ name.toList) (named : names ≠ [""]) :
    resolve c (.modelled d) (.text (Text.dotted names)) =
      .ok (.plain (Text.dotted (members.map Member.storedName))) := by
  show outcome _ (resolveName c d (Text.dotted names)) = _
  have given := Text.dotted_ne_empty chain.names_ne_nil named
  have segments := Text.segments_dotted chain.names_ne_nil dotless
  simp only [resolveName, given, if_false, serialize, segments, (keeps.chain chain).storedNames]
  rfl

/-- No model resolves a reference from a model that it neither is nor extends. -/
theorem resolve_foreign {d m : ModelName} (names : List String)
    (foreign : c.inherits d m = false) :
    resolve c (.modelled d) (.node (.field ⟨m, names⟩)) =
      .error (.unresolved (.node (.field ⟨m, names⟩)) (.foreign m.name d.name)) := by
  show outcome _ (resolveChain c d ⟨m, names⟩) = _
  simp only [resolveChain, foreign, if_false, Bool.false_eq_true]
  exact congrArg Except.error (Fault.mismatch_field _ _)

end Schema

/-- The references that the members of a model give are exactly its chains of
members, by attributes as by items; every model that keeps it resolves them to
the stored names of the members, as it does the dotted name of the chain unless
that is empty, and no model that does not extend it resolves them at all. -/
theorem typed_references (c : Catalog) (m : ModelName) :
    (∀ v, Obtainable c m v ↔
      ∃ names members, c.Chain m names members ∧ v = .node (.field ⟨m, names⟩)) ∧
    (∀ tag name v, name.startsWith "_" = false →
      ((Value.node (.members m tag)).part c name = .ok (.value v) ↔
        (Value.node (.members m tag)).item c (.text name) = .ok v)) ∧
    (∀ before, Obtainable c m before → ∀ name v, name.startsWith "_" = false →
      name ≠ "model" → name ≠ "parts" →
        (before.part c name = .ok (.value v) ↔ before.item c (.text name) = .ok v)) ∧
    (∀ names members, c.Chain m names members → ∀ d, c.Keeps d m →
      Schema.resolve c (.modelled d) (.node (.field ⟨m, names⟩)) =
        .ok (.plain (Text.dotted (members.map Member.storedName))) ∧
      ((∀ name ∈ names, '.' ∉ name.toList) → names ≠ [""] →
        Schema.resolve c (.modelled d) (.text (Text.dotted names)) =
          Schema.resolve c (.modelled d) (.node (.field ⟨m, names⟩)))) ∧
    (∀ names members, c.Chain m names members → ∀ d, c.inherits d m = false →
      ∃ reason, Schema.resolve c (.modelled d) (.node (.field ⟨m, names⟩)) =
        .error (.unresolved (.node (.field ⟨m, names⟩)) reason)) := by
  refine ⟨fun v => obtainable_iff, ?_, ?_, ?_, ?_⟩
  · intro tag name v plain
    exact Value.part_members plain
  · intro before obtained name v plain notModel notParts
    obtain ⟨names, members, -, rfl⟩ := obtainable_iff.mp obtained
    exact Value.part_field plain notModel notParts
  · intro names members chain d keeps
    have resolved := Schema.resolve_chain keeps chain
    refine ⟨resolved, fun dotless named => ?_⟩
    rw [resolved]
    exact Schema.resolve_dotted keeps chain dotless named
  · intro names members chain d foreign
    exact ⟨_, Schema.resolve_foreign names foreign⟩

/-! ### A cyclic model -/

/-- A model with a member of its own kind.  The name of that member is also the
stored name of its sibling. -/
def nodeModel : Declaration :=
  ⟨⟨"models", "Node"⟩, none, none,
    [⟨"next", .optional (.model ⟨"models", "Node"⟩), none, some "n", none⟩,
      ⟨"label", .scalar "str", some "next", none, none⟩]⟩

def leafModel : Declaration :=
  ⟨⟨"models", "Leaf"⟩, some ⟨"models", "Node"⟩, none, [⟨"n", .scalar "int", none, none, none⟩]⟩

def nodeCatalog : Catalog :=
  (Catalog.empty.declare nodeModel).declare leafModel

theorem leafModel_keeps : nodeCatalog.Keeps leafModel.name nodeModel.name :=
  Catalog.Keeps.declare rfl (by decide) (by decide)

theorem nodeCatalog_references :
    Obtainable nodeCatalog nodeModel.name
        (.node (.field ⟨nodeModel.name, ["next", "next", "label"]⟩)) ∧
      Schema.resolve nodeCatalog (.modelled leafModel.name) (.text "next.next.label") =
        .ok (.plain "n.n.next") := by
  obtain ⟨obtained, -, -, resolved, -⟩ := typed_references nodeCatalog nodeModel.name
  have chain : nodeCatalog.Chain nodeModel.name ["next", "next", "label"]
      [⟨"next", .optional (.model nodeModel.name), none, some "n", none⟩,
        ⟨"next", .optional (.model nodeModel.name), none, some "n", none⟩,
        ⟨"label", .scalar "str", some "next", none, none⟩] :=
    .step rfl rfl (.step rfl rfl (.last rfl))
  obtain ⟨byReference, byName⟩ := resolved _ _ chain _ leafModel_keeps
  have same := byName (by decide) (by decide)
  rw [byReference] at same
  exact ⟨(obtained _).mpr ⟨_, _, chain, rfl⟩, same⟩

/-- A model whose only member has no name. -/
def namelessModel : Declaration :=
  ⟨⟨"models", "Nameless"⟩, none, none, [⟨"", .scalar "int", none, none, none⟩]⟩

/-- The reference to a member without a name resolves, and the dotted name that
it stands for does not. -/
theorem namelessModel_dotted_refused :
    Obtainable (Catalog.empty.declare namelessModel) namelessModel.name
        (.node (.field ⟨namelessModel.name, [""]⟩)) ∧
      Schema.resolve (Catalog.empty.declare namelessModel) (.modelled namelessModel.name)
        (.node (.field ⟨namelessModel.name, [""]⟩)) = .ok (.plain "") ∧
      Schema.resolve (Catalog.empty.declare namelessModel) (.modelled namelessModel.name)
        (.text (Text.dotted [""])) = .error (.unresolved (.text "") .notField) := by
  have chain : (Catalog.empty.declare namelessModel).Chain namelessModel.name [""]
      [⟨"", .scalar "int", none, none, none⟩] := .last rfl
  exact ⟨chain.obtainable, Schema.resolve_chain (.refl _) chain, rfl⟩

end SearchQuery
